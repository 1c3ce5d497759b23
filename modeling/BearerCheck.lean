import BearerCheck.Main
import BearerCheck.Proofs.CommandLine
import BearerCheck.Proofs.Issuer.Alias
import BearerCheck.Proofs.Issuer.Lookup
import BearerCheck.Proofs.KeySet.Described
import BearerCheck.Proofs.Log.Redaction
import BearerCheck.Proofs.Service.Padding
import BearerCheck.Proofs.Service.Requests
import BearerCheck.Proofs.Service.Room
import BearerCheck.Proofs.Settings.Layers
import BearerCheck.Proofs.Settings.QuotedReference
import BearerCheck.Proofs.Settings.Window
import BearerCheck.Proofs.Token.KeyId
import BearerCheck.Proofs.Token.Objects
import BearerCheck.Proofs.Token.RoundTrip
import BearerCheck.Proofs.Verifier.Instants
import BearerCheck.Proofs.Verifier.UnknownMembers
import BearerCheck.Settings.Text
import BearerCheck.Verifier.Description
