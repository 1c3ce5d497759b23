import BearerCheck.Text.Ranges

namespace BearerCheck.Domain.Mapping

open Text

def disallowed : List (Nat × Nat) := Ranges.read [
    "80 1f 2d9 1 7 3 8 0 2 0 15 0 18e 0 27 0 35 0 4 0 3a 5 1c 3 7 10 17 0 c1 0 31 1 3c 1 66 d 3c",
    "1 32 1 10 0 1d 1 2 0 c 4 21 6 4c 0 a2 0 9 1 3 1 17 0 8 0 2 2 5 1 a 1 3 1 5 7 2 3 3 0 6 1 1a",
    "1 4 0 7 3 3 1 17 0 8 0 3 0 3 0 3 1 2 0 6 3 3 1 4 2 2 6 5 0 2 6 12 9 4 0 a 0 4 0 17 0 8 0 3 0",
    "6 1 b 0 4 0 4 1 2 e 5 1 d 6 8 0 4 0 9 1 3 1 17 0 8 0 3 0 6 1 a 1 3 1 4 4 6 3 3 0 6 1 13 9 3",
    "0 7 2 4 0 5 2 3 0 2 0 3 2 3 2 4 2 d 3 6 2 4 0 5 1 2 5 2 d 16 4 e 0 4 0 18 0 11 1 a 0 4 0 5 6",
    "3 0 4 0 3 1 5 1 b 6 17 0 4 0 18 0 b 0 6 1 a 0 4 0 5 6 3 4 4 0 5 1 b 0 4 b e 0 4 0 34 0 4 0 7",
    "3 11 1 1b 0 4 0 13 2 19 0 a 0 2 1 8 2 2 3 7 0 2 0 9 5 b 1 4 b 3b 3 1e 24 3 0 2 0 6 0 19 0 2",
    "0 18 1 6 0 2 0 8 0 b 1 5 1f 49 0 25 3 28 0 25 0 10 0 e 24 c7 0 2 4 2 1 17a 0 5 1 8 0 2 0 5 1",
    "2a 0 5 1 22 0 5 1 8 0 2 0 5 1 10 0 3a 0 5 1 44 1 21 2 1b 5 57 1 7 1 281 0 1d 2 5a 6 17 8 19",
    "8 15 b e 0 4 0 3 b 5f 1 b 5 b 5 1b 5 5a 6 2c 4 47 9 20 0 d 3 d 3 2 2 2b 1 6 a 2d 3 1b 5 c 2",
    "3f 1 42 0 1e 1 c 5 b 5 f 1 40 10 4e 0 a7 7 3d 2 10 2 3f 4 2c 1 c 7 2c 4 217 1 7 1 27 1 7 1 9",
    "0 2 0 2 0 2 0 20 1 36 0 10 0 f 1 7 0 14 1 4 0 a 0 f 1 15 2 2 6 37 4 9 1 52 a 22 e 8d 3 29b",
    "15 c 14 29 13 6d9 1 17f 4 2e 0 2 4 2 1 39 6 3 d 19 8 8 0 8 0 8 0 8 0 8 0 8 0 8 0 8 0 83 1d",
    "1b 0 5a b d7 29 41 0 57 1 68 4 2c 0 5f 0 57 9 30 0 1a3 0 5 0 11 0 70b5 2 38 8 15d 13 b9 7 df",
    "12 3d 2 b 5 39 7 47 7 d 5 75 a 1f 2 4f 0 c 3 22 0 38 8 f 1 b 1 68 17 1d 9 7 1 7 1 7 8 8 0 8",
    "0 3d 3 7f 1 b 5 2ba5 b 18 3 32 2103 16f 1 6b 25 8 b 6 4 1b 0 6 0 2 0 3 0 3 0 28b 1f 23 0 7 6",
    "11 0 22 1 14 0 5 3 6 0 88 1 2 0 bf 2 7 1 7 1 7 1 4 2 8 0 8 10 d 0 1b 0 14 0 3 0 10 1 f 21 7c",
    "4 4 3 2e 2 59 0 e 2 2 2e 2f 81 1e 2 32 e 1d 3 25 8 1f 4 2c 4 1f 0 26 3 f 29 9f 1 b 5 25 3 25",
    "3 29 7 35 a d 0 10 0 8 0 3 0 c 0 10 0 8 0 3 2 35 b 138 8 17 9 9 17 7 0 2b 0 f 3f 7 1 2 0 2d",
    "0 3 2 2 1 18 0 49 7 a 2f 14 0 3 4 22 2 1c 4 1c 25 39 3 15 1 33 0 3 4 9 0 4 0 1e 1 4 3 b 6 a",
    "6 41 1f 28 3 d 8 37 2 1e 1 1c 4 1b 6 5 b 8 4f 4a 36 34 c 34 6 2f 7 b 5 27 2 1e 7 3 cf 20 0",
    "2b 0 4 1 3 f b 3 b 15 39 7 2b 15 1b 25 1d 13 18 8 4f 3 25 8 3f 0 6 c 1a 6 b 5 36 0 13 7 28 8",
    "61 0 15 a 13 0 30 3d 8 0 2 0 5 0 10 0 c 5 3c 4 b 5 5 0 9 1 3 1 17 0 8 0 3 0 6 0 b 1 3 1 4 1",
    "2 5 2 4 8 1 8 2 6 a b 0 2 1 2 0 27 0 b 0 2 1 2 0 5 0 b 0 3 7 3 1c 5d 0 6 1d 49 7 b a5 37 1",
    "27 21 46 a b 5 e 12 3b 5 b 5 15 1b 1c 1 10 3 18 b8 3d 63 54 b 9 1 2 1 9 0 3 0 1f 0 3 1 d 8 b",
    "45 9 1 2f 1 c 1a 49 7 54 c 4a 6 c 54 9 57 23 d b 5 a 0 2e 0 f 9 1e 2 21 1 17 0 f 48 8 0 3 0",
    "2d 2 2 0 3 0 a 7 b 5 7 0 3 0 26 0 3 0 7 6 b 5 2d 3 b 5 11 df 1a 6 12 0 2a 2 1e 54 2 e 33 c",
    "39c 65 76 a c5 b 138 908 64 c 431 f 17 9 f9c 4 248 1ab8 3b 6c5 23a 6 20 0 b 3 52 0 b 5 1f 1",
    "7 9 47 9 b 0 8 0 16 4 14 1af 3b 5 31 8f 5c 4 1a 1 1a 2b 4c 3 3a 6 12 3f 6 a 8 8 1ce1 1e 23",
    "5e 74 c 393 d 34 1e1c 5 0 8 0 3 0 125 d 2 1c 4 1 2 d 6 6 18d 903 6c 4 e 2 a 6 b 1 9 f5b fe 2",
    "1b5 5 18 e 12 e 2f 1 18 8 75 3b f7 9 28 1 c3 14 47 9 41 2f 15 b 15 b 58 8 1a 86 56 0 48 0 3",
    "1 2 1 3 1 5 0 d 0 2 0 8 0 42 0 5 1 9 0 8 0 1d 0 5 0 6 0 2 2 8 0 27b 1 2bf e 6 0 10 4f 101",
    "2ff 108 0 12 1 8 0 3 0 6 4 3f 20 2 6f 2e 2 f 1 b 3 3 13f 20 10 3b 4 2 1cf 2b d5 2c 3 2 bf 20",
    "0 17 7 3 df 8 0 5 0 3 0 10 0 c6 1 11 28 4d 3 b 3 3 310 45 4b 3e c1 5 0 1c 0 3 0 2 1 2 0 b 0",
    "5 0 2 0 2 5 2 3 2 0 2 0 2 0 4 0 3 0 2 1 2 0 2 0 2 0 2 0 2 0 3 0 2 1 5 0 8 0 5 0 5 0 2 0 b 0",
    "12 4 4 0 6 0 12 33 3 10d 2d 3 65 b 10 1 10 0 10 0 26 a ae 37 1e c 2d 3 a 6 3 d 7 99 3db 1 12",
    "2 e 2 ed 3 1d 3 39 7 b 5 29 7 1f 1 d 3 3 d a 26 159 7 f 1 e 2 48 0 cc 0 68 404 a6e1 1f 27af",
    "1 1d32 e 26f 9a1 21f 5e1 134c 4 212b 9b85 2c41 a04bf f1 2fe0f"]

def ignored : List (Nat × Nat) := Ranges.read [
    "ad 0 2a2 0 e10 1 654 1 56 4 7fc 0 55 4 6 5 10f5 0 cc9c f f0 0 a1 0 bd00 3 14d0 7 c2f86 ef"]

def moved : List Ranges.Valued := Ranges.readValued [
    "41 19 61 46 0 20 a 0 61 8 1 32 2 0 3bc 4 0 31 1 0 6f 6 16 e0 2 6 f8 22 0 101 2 0 103 2 0 105",
    "2 0 107 2 0 109 2 0 10b 2 0 10d 2 0 10f 2 0 111 2 0 113 2 0 115 2 0 117 2 0 119 2 0 11b 2 0",
    "11d 2 0 11f 2 0 121 2 0 123 2 0 125 2 0 127 2 0 129 2 0 12b 2 0 12d 2 0 12f 6 0 135 2 0 137",
    "3 0 13a 2 0 13c 2 0 13e 4 0 142 2 0 144 2 0 146 2 0 148 3 0 14b 2 0 14d 2 0 14f 2 0 151 2 0",
    "153 2 0 155 2 0 157 2 0 159 2 0 15b 2 0 15d 2 0 15f 2 0 161 2 0 163 2 0 165 2 0 167 2 0 169",
    "2 0 16b 2 0 16d 2 0 16f 2 0 171 2 0 173 2 0 175 2 0 177 2 0 ff 1 0 17a 2 0 17c 2 0 17e 2 0",
    "73 2 0 253 1 0 183 2 0 185 2 0 254 1 0 188 2 1 256 1 0 18c 3 0 1dd 1 0 259 1 0 25b 1 0 192 2",
    "0 260 1 0 263 2 0 269 1 0 268 1 0 199 4 0 26f 1 0 272 2 0 275 1 0 1a1 2 0 1a3 2 0 1a5 2 0",
    "280 1 0 1a8 2 0 283 3 0 1ad 2 0 288 1 0 1b0 2 1 28a 1 0 1b4 2 0 1b6 2 0 292 1 0 1b9 4 0 1bd",
    "11 0 1ce 2 0 1d0 2 0 1d2 2 0 1d4 2 0 1d6 2 0 1d8 2 0 1da 2 0 1dc 3 0 1df 2 0 1e1 2 0 1e3 2 0",
    "1e5 2 0 1e7 2 0 1e9 2 0 1eb 2 0 1ed 2 0 1ef 6 0 1f5 2 0 195 1 0 1bf 1 0 1f9 2 0 1fb 2 0 1fd",
    "2 0 1ff 2 0 201 2 0 203 2 0 205 2 0 207 2 0 209 2 0 20b 2 0 20d 2 0 20f 2 0 211 2 0 213 2 0",
    "215 2 0 217 2 0 219 2 0 21b 2 0 21d 2 0 21f 2 0 19e 2 0 223 2 0 225 2 0 227 2 0 229 2 0 22b",
    "2 0 22d 2 0 22f 2 0 231 2 0 233 8 0 2c65 1 0 23c 2 0 19a 1 0 2c66 3 0 242 2 0 180 1 0 289 1",
    "0 28c 1 0 247 2 0 249 2 0 24b 2 0 24d 2 0 24f 62 0 68 1 0 266 1 0 6a 1 0 72 1 0 279 1 0 27b",
    "1 0 281 1 0 77 1 0 79 28 0 263 1 0 6c 1 0 73 1 0 78 1 0 295 5c 1 300 2 0 313 2 0 3b9 2b 0",
    "371 2 0 373 2 0 2b9 2 0 377 8 0 3b 1 0 3f3 7 0 3ac 1 0 b7 1 2 3ad 2 0 3cc 2 1 3cd 2 10 3b1 2",
    "8 3c3 24 0 3d7 1 0 3b2 1 0 3b8 1 0 3c5 1 0 3cd 1 0 3cb 1 0 3c6 1 0 3c0 2 0 3d9 2 0 3db 2 0",
    "3dd 2 0 3df 2 0 3e1 2 0 3e3 2 0 3e5 2 0 3e7 2 0 3e9 2 0 3eb 2 0 3ed 2 0 3ef 2 0 3ba 1 0 3c1",
    "1 0 3c3 2 0 3b8 1 0 3b5 2 0 3f8 2 0 3c3 1 0 3fb 3 2 37b 1 f 450 1 1f 430 31 0 461 2 0 463 2",
    "0 465 2 0 467 2 0 469 2 0 46b 2 0 46d 2 0 46f 2 0 471 2 0 473 2 0 475 2 0 477 2 0 479 2 0",
    "47b 2 0 47d 2 0 47f 2 0 481 a 0 48b 2 0 48d 2 0 48f 2 0 491 2 0 493 2 0 495 2 0 497 2 0 499",
    "2 0 49b 2 0 49d 2 0 49f 2 0 4a1 2 0 4a3 2 0 4a5 2 0 4a7 2 0 4a9 2 0 4ab 2 0 4ad 2 0 4af 2 0",
    "4b1 2 0 4b3 2 0 4b5 2 0 4b7 2 0 4b9 2 0 4bb 2 0 4bd 2 0 4bf 2 0 4cf 1 0 4c2 2 0 4c4 2 0 4c6",
    "2 0 4c8 2 0 4ca 2 0 4cc 2 0 4ce 3 0 4d1 2 0 4d3 2 0 4d5 2 0 4d7 2 0 4d9 2 0 4db 2 0 4dd 2 0",
    "4df 2 0 4e1 2 0 4e3 2 0 4e5 2 0 4e7 2 0 4e9 2 0 4eb 2 0 4ed 2 0 4ef 2 0 4f1 2 0 4f3 2 0 4f5",
    "2 0 4f7 2 0 4f9 2 0 4fb 2 0 4fd 2 0 4ff 2 0 501 2 0 503 2 0 505 2 0 507 2 0 509 2 0 50b 2 0",
    "50d 2 0 50f 2 0 511 2 0 513 2 0 515 2 0 517 2 0 519 2 0 51b 2 0 51d 2 0 51f 2 0 521 2 0 523",
    "2 0 525 2 0 527 2 0 529 2 0 52b 2 0 52d 2 0 52f 3 25 561 2 0 567 33 0 56b 981 0 f0b 194 25",
    "2d00 2 0 2d27 6 0 2d2d 2f 0 10dc 2fc 5 13f0 883 0 432 1 0 434 1 0 43e 1 1 441 1 0 442 1 0",
    "44a 1 0 463 1 0 a64b 1 0 1c8a 7 2a 10d0 3 2 10fd 6d 0 61 1 0 e6 1 0 62 2 1 64 1 0 1dd 1 7 67",
    "2 0 6f 1 0 223 1 0 70 1 0 72 1 1 74 1 0 77 1 0 61 1 1 250 1 0 1d02 1 0 62 1 1 64 1 0 259 1 1",
    "25b 1 0 67 2 0 6b 1 0 6d 1 0 14b 1 0 6f 1 0 254 1 1 1d16 1 0 70 1 1 74 1 0 1d1d 1 0 26f 1 0",
    "76 1 0 1d25 1 2 3b2 1 1 3c6 1 0 69 1 0 72 1 1 75 1 1 3b2 1 0 3c1 1 1 3c6 e 0 43d 23 0 252 1",
    "0 63 1 0 255 1 0 f0 1 0 25c 1 0 66 1 0 25f 1 0 261 1 0 265 1 2 268 1 0 1d7b 1 0 29d 1 0 26d",
    "1 0 1d85 1 0 29f 1 0 271 1 0 270 1 3 272 1 0 278 1 1 282 1 0 1ab 1 1 289 1 0 1d1c 1 1 28b 1",
    "0 7a 1 2 290 1 0 3b8 41 0 1e01 2 0 1e03 2 0 1e05 2 0 1e07 2 0 1e09 2 0 1e0b 2 0 1e0d 2 0",
    "1e0f 2 0 1e11 2 0 1e13 2 0 1e15 2 0 1e17 2 0 1e19 2 0 1e1b 2 0 1e1d 2 0 1e1f 2 0 1e21 2 0",
    "1e23 2 0 1e25 2 0 1e27 2 0 1e29 2 0 1e2b 2 0 1e2d 2 0 1e2f 2 0 1e31 2 0 1e33 2 0 1e35 2 0",
    "1e37 2 0 1e39 2 0 1e3b 2 0 1e3d 2 0 1e3f 2 0 1e41 2 0 1e43 2 0 1e45 2 0 1e47 2 0 1e49 2 0",
    "1e4b 2 0 1e4d 2 0 1e4f 2 0 1e51 2 0 1e53 2 0 1e55 2 0 1e57 2 0 1e59 2 0 1e5b 2 0 1e5d 2 0",
    "1e5f 2 0 1e61 2 0 1e63 2 0 1e65 2 0 1e67 2 0 1e69 2 0 1e6b 2 0 1e6d 2 0 1e6f 2 0 1e71 2 0",
    "1e73 2 0 1e75 2 0 1e77 2 0 1e79 2 0 1e7b 2 0 1e7d 2 0 1e7f 2 0 1e81 2 0 1e83 2 0 1e85 2 0",
    "1e87 2 0 1e89 2 0 1e8b 2 0 1e8d 2 0 1e8f 2 0 1e91 2 0 1e93 2 0 1e95 7 0 1e61 3 0 df 2 0 1ea1",
    "2 0 1ea3 2 0 1ea5 2 0 1ea7 2 0 1ea9 2 0 1eab 2 0 1ead 2 0 1eaf 2 0 1eb1 2 0 1eb3 2 0 1eb5 2",
    "0 1eb7 2 0 1eb9 2 0 1ebb 2 0 1ebd 2 0 1ebf 2 0 1ec1 2 0 1ec3 2 0 1ec5 2 0 1ec7 2 0 1ec9 2 0",
    "1ecb 2 0 1ecd 2 0 1ecf 2 0 1ed1 2 0 1ed3 2 0 1ed5 2 0 1ed7 2 0 1ed9 2 0 1edb 2 0 1edd 2 0",
    "1edf 2 0 1ee1 2 0 1ee3 2 0 1ee5 2 0 1ee7 2 0 1ee9 2 0 1eeb 2 0 1eed 2 0 1eef 2 0 1ef1 2 0",
    "1ef3 2 0 1ef5 2 0 1ef7 2 0 1ef9 2 0 1efb 2 0 1efd 2 0 1eff a 7 1f00 9 5 1f10 b 7 1f20 9 7",
    "1f30 9 5 1f40 c 0 1f51 2 0 1f53 2 0 1f55 2 0 1f57 9 7 1f60 2 0 3ac 2 0 3ad 2 0 3ae 2 0 3af 2",
    "0 3cc 2 0 3cd 2 0 3ce 3b 1 1fb0 1 0 1f70 1 0 3ac 3 0 3b9 a 0 1f72 1 0 3ad 1 0 1f74 1 0 3ae 8",
    "0 390 5 1 1fd0 1 0 1f76 1 0 3af 8 0 3b0 5 1 1fe0 1 0 1f7a 1 0 3cd 1 0 1fe5 3 0 60 9 0 1f78 1",
    "0 3cc 1 0 1f7c 1 0 3ce 5 0 20 1 0 20 1 0 20 1 0 20 1 0 20 1 0 20 1 0 20 1 0 20 1 0 20 1 0 20",
    "1 0 20 7 0 2010 1e 0 20 30 0 20 11 0 30 1 0 69 3 5 34 1 0 2b 1 0 2212 1 0 3d 1 1 28 1 0 6e 1",
    "9 30 1 0 2b 1 0 2212 1 0 3d 1 1 28 2 0 61 1 0 65 1 0 6f 1 0 78 1 0 259 1 0 68 1 3 6b 1 0 70",
    "1 1 73 1 0 77 1 1 79 63 0 63 5 0 25b 3 1 67 1 0 68 1 0 68 1 0 68 1 0 127 1 0 69 1 0 69 1 0",
    "6c 1 0 6c 2 0 6e 4 2 70 1 0 72 1 0 72 7 0 7a 2 0 3c9 2 0 7a 2 0 6b 1 0 e5 1 1 62 2 0 65 1 1",
    "65 1 0 214e 1 0 6d 1 0 6f 1 3 5d0 1 0 69 3 0 3c0 1 0 3b3 1 0 3b3 1 0 3c0 1 0 2211 5 0 64 1 1",
    "64 1 1 69 17 0 69 4 0 76 5 0 78 3 0 6c 1 1 63 1 0 6d 1 0 69 4 0 76 5 0 78 3 0 6c 1 1 63 1 0",
    "6d 4 0 2184 1a6 1 3008 136 8 31 4e 19 61 1 19 61 1 0 30 716 2f 2c30 31 0 2c61 2 0 26b 1 0",
    "1d7d 1 0 27d 3 0 2c68 2 0 2c6a 2 0 2c6c 2 0 251 1 0 271 1 0 250 1 0 252 2 0 2c73 3 0 2c76 7",
    "0 6a 1 0 76 1 1 23f 1 0 2c81 2 0 2c83 2 0 2c85 2 0 2c87 2 0 2c89 2 0 2c8b 2 0 2c8d 2 0 2c8f",
    "2 0 2c91 2 0 2c93 2 0 2c95 2 0 2c97 2 0 2c99 2 0 2c9b 2 0 2c9d 2 0 2c9f 2 0 2ca1 2 0 2ca3 2",
    "0 2ca5 2 0 2ca7 2 0 2ca9 2 0 2cab 2 0 2cad 2 0 2caf 2 0 2cb1 2 0 2cb3 2 0 2cb5 2 0 2cb7 2 0",
    "2cb9 2 0 2cbb 2 0 2cbd 2 0 2cbf 2 0 2cc1 2 0 2cc3 2 0 2cc5 2 0 2cc7 2 0 2cc9 2 0 2ccb 2 0",
    "2ccd 2 0 2ccf 2 0 2cd1 2 0 2cd3 2 0 2cd5 2 0 2cd7 2 0 2cd9 2 0 2cdb 2 0 2cdd 2 0 2cdf 2 0",
    "2ce1 2 0 2ce3 9 0 2cec 2 0 2cee 5 0 2cf3 7d 0 2d61 130 0 6bcd 54 0 9f9f d 0 4e00 1 0 4e28 1",
    "0 4e36 1 0 4e3f 1 0 4e59 1 0 4e85 1 0 4e8c 1 0 4ea0 1 0 4eba 1 0 513f 1 0 5165 1 0 516b 1 0",
    "5182 1 0 5196 1 0 51ab 1 0 51e0 1 0 51f5 1 0 5200 1 0 529b 1 0 52f9 1 0 5315 1 0 531a 1 0",
    "5338 1 0 5341 1 0 535c 1 0 5369 1 0 5382 1 0 53b6 1 0 53c8 1 0 53e3 1 0 56d7 1 0 571f 1 0",
    "58eb 1 0 5902 1 0 590a 1 0 5915 1 0 5927 1 0 5973 1 0 5b50 1 0 5b80 1 0 5bf8 1 0 5c0f 1 0",
    "5c22 1 0 5c38 1 0 5c6e 1 0 5c71 1 0 5ddb 1 0 5de5 1 0 5df1 1 0 5dfe 1 0 5e72 1 0 5e7a 1 0",
    "5e7f 1 0 5ef4 1 0 5efe 1 0 5f0b 1 0 5f13 1 0 5f50 1 0 5f61 1 0 5f73 1 0 5fc3 1 0 6208 1 0",
    "6236 1 0 624b 1 0 652f 1 0 6534 1 0 6587 1 0 6597 1 0 65a4 1 0 65b9 1 0 65e0 1 0 65e5 1 0",
    "66f0 1 0 6708 1 0 6728 1 0 6b20 1 0 6b62 1 0 6b79 1 0 6bb3 1 0 6bcb 1 0 6bd4 1 0 6bdb 1 0",
    "6c0f 1 0 6c14 1 0 6c34 1 0 706b 1 0 722a 1 0 7236 1 0 723b 1 0 723f 1 0 7247 1 0 7259 1 0",
    "725b 1 0 72ac 1 0 7384 1 0 7389 1 0 74dc 1 0 74e6 1 0 7518 1 0 751f 1 0 7528 1 0 7530 1 0",
    "758b 1 0 7592 1 0 7676 1 0 767d 1 0 76ae 1 0 76bf 1 0 76ee 1 0 77db 1 0 77e2 1 0 77f3 1 0",
    "793a 1 0 79b8 1 0 79be 1 0 7a74 1 0 7acb 1 0 7af9 1 0 7c73 1 0 7cf8 1 0 7f36 1 0 7f51 1 0",
    "7f8a 1 0 7fbd 1 0 8001 1 0 800c 1 0 8012 1 0 8033 1 0 807f 1 0 8089 1 0 81e3 1 0 81ea 1 0",
    "81f3 1 0 81fc 1 0 820c 1 0 821b 1 0 821f 1 0 826e 1 0 8272 1 0 8278 1 0 864d 1 0 866b 1 0",
    "8840 1 0 884c 1 0 8863 1 0 897e 1 0 898b 1 0 89d2 1 0 8a00 1 0 8c37 1 0 8c46 1 0 8c55 1 0",
    "8c78 1 0 8c9d 1 0 8d64 1 0 8d70 1 0 8db3 1 0 8eab 1 0 8eca 1 0 8f9b 1 0 8fb0 1 0 8fb5 1 0",
    "9091 1 0 9149 1 0 91c6 1 0 91cc 1 0 91d1 1 0 9577 1 0 9580 1 0 961c 1 0 96b6 1 0 96b9 1 0",
    "96e8 1 0 9751 1 0 975e 1 0 9762 1 0 9769 1 0 97cb 1 0 97ed 1 0 97f3 1 0 9801 1 0 98a8 1 0",
    "98db 1 0 98df 1 0 9996 1 0 9999 1 0 99ac 1 0 9aa8 1 0 9ad8 1 0 9adf 1 0 9b25 1 0 9b2f 1 0",
    "9b32 1 0 9b3c 1 0 9b5a 1 0 9ce5 1 0 9e75 1 0 9e7f 1 0 9ea5 1 0 9ebb 1 0 9ec3 1 0 9ecd 1 0",
    "9ed1 1 0 9ef9 1 0 9efd 1 0 9f0e 1 0 9f13 1 0 9f20 1 0 9f3b 1 0 9f4a 1 0 9f52 1 0 9f8d 1 0",
    "9f9c 1 0 9fa0 2b 0 20 2 0 2e 34 0 3012 2 0 5341 1 1 5344 f7 1 1100 1 0 11aa 1 0 1102 1 1",
    "11ac 1 2 1103 1 5 11b0 1 0 111a 1 2 1106 1 0 1121 1 9 1109 1 14 1161 2 1 1114 1 1 11c7 1 0",
    "11cc 1 0 11ce 1 0 11d3 1 0 11d7 1 0 11d9 1 0 111c 1 0 11dd 1 0 11df 1 1 111d 1 0 1120 1 1",
    "1122 1 0 1127 1 0 1129 1 4 112b 1 0 1132 1 0 1136 1 0 1140 1 0 1147 1 0 114c 1 1 11f1 1 2",
    "1157 1 1 1184 1 0 1188 1 1 1191 1 0 1194 1 0 119e 1 0 11a1 4 0 4e00 1 0 4e8c 1 0 4e09 1 0",
    "56db 1 0 4e0a 1 0 4e2d 1 0 4e0b 1 0 7532 1 0 4e59 1 0 4e19 1 0 4e01 1 0 5929 1 0 5730 1 0",
    "4eba a5 0 554f 1 0 5e7c 1 0 6587 1 0 7b8f 19 0 1100 1 1 1102 1 2 1105 1 0 1109 1 1 110b 1 4",
    "110e 1 0 ac00 1 0 b098 1 0 b2e4 1 0 b77c 1 0 b9c8 1 0 bc14 1 0 c0ac 1 0 c544 1 0 c790 1 0",
    "cc28 1 0 ce74 1 0 d0c0 1 0 d30c 1 0 d558 3 0 c6b0 2 0 4e00 1 0 4e8c 1 0 4e09 1 0 56db 1 0",
    "4e94 1 0 516d 1 0 4e03 1 0 516b 1 0 4e5d 1 0 5341 1 0 6708 1 0 706b 1 0 6c34 1 0 6728 1 0",
    "91d1 1 0 571f 1 0 65e5 1 0 682a 1 0 6709 1 0 793e 1 0 540d 1 0 7279 1 0 8ca1 1 0 795d 1 0",
    "52b4 1 0 79d8 1 0 7537 1 0 5973 1 0 9069 1 0 512a 1 0 5370 1 0 6ce8 1 0 9805 1 0 4f11 1 0",
    "5199 1 0 6b63 1 0 4e0a 1 0 4e2d 1 0 4e0b 1 0 5de6 1 0 53f3 1 0 533b 1 0 5b97 1 0 5b66 1 0",
    "76e3 1 0 4f01 1 0 8cc7 1 0 5354 1 0 591c 20 0 30a2 1 0 30a4 1 0 30a6 1 0 30a8 1 1 30aa 1 0",
    "30ad 1 0 30af 1 0 30b1 1 0 30b3 1 0 30b5 1 0 30b7 1 0 30b9 1 0 30bb 1 0 30bd 1 0 30bf 1 0",
    "30c1 1 0 30c4 1 0 30c6 1 0 30c8 1 5 30ca 1 0 30d2 1 0 30d5 1 0 30d8 1 0 30db 1 4 30de 1 0",
    "30e4 1 0 30e6 1 5 30e8 1 3 30ef 7342 0 a641 2 0 a643 2 0 a645 2 0 a647 2 0 a649 2 0 a64b 2 0",
    "a64d 2 0 a64f 2 0 a651 2 0 a653 2 0 a655 2 0 a657 2 0 a659 2 0 a65b 2 0 a65d 2 0 a65f 2 0",
    "a661 2 0 a663 2 0 a665 2 0 a667 2 0 a669 2 0 a66b 2 0 a66d 14 0 a681 2 0 a683 2 0 a685 2 0",
    "a687 2 0 a689 2 0 a68b 2 0 a68d 2 0 a68f 2 0 a691 2 0 a693 2 0 a695 2 0 a697 2 0 a699 2 0",
    "a69b 2 0 44a 1 0 44c 85 0 a723 2 0 a725 2 0 a727 2 0 a729 2 0 a72b 2 0 a72d 2 0 a72f 4 0",
    "a733 2 0 a735 2 0 a737 2 0 a739 2 0 a73b 2 0 a73d 2 0 a73f 2 0 a741 2 0 a743 2 0 a745 2 0",
    "a747 2 0 a749 2 0 a74b 2 0 a74d 2 0 a74f 2 0 a751 2 0 a753 2 0 a755 2 0 a757 2 0 a759 2 0",
    "a75b 2 0 a75d 2 0 a75f 2 0 a761 2 0 a763 2 0 a765 2 0 a767 2 0 a769 2 0 a76b 2 0 a76d 2 0",
    "a76f 2 0 a76f 9 0 a77a 2 0 a77c 2 0 1d79 1 0 a77f 2 0 a781 2 0 a783 2 0 a785 2 0 a787 5 0",
    "a78c 2 0 265 3 0 a791 2 0 a793 4 0 a797 2 0 a799 2 0 a79b 2 0 a79d 2 0 a79f 2 0 a7a1 2 0",
    "a7a3 2 0 a7a5 2 0 a7a7 2 0 a7a9 2 0 266 1 0 25c 1 0 261 1 0 26c 1 0 26a 2 0 29e 1 0 287 1 0",
    "29d 1 0 ab53 1 0 a7b5 2 0 a7b7 2 0 a7b9 2 0 a7bb 2 0 a7bd 2 0 a7bf 2 0 a7c1 2 0 a7c3 2 0",
    "a794 1 0 282 1 0 1d8e 1 0 a7c8 2 0 a7ca 2 0 264 1 0 a7cd 2 0 a7cf 2 0 a7d1 2 0 a7d3 2 0 a7d5",
    "2 0 a7d7 2 0 a7d9 2 0 a7db 2 0 19b 1 0 277 14 0 73 1 0 63 1 0 66 1 0 71 1 0 a7f6 3 0 127 1 0",
    "153 363 0 a727 1 0 ab37 1 0 26b 1 0 ab52 a 0 28d 7 4f 13a0 4d41 0 8c48 1 0 66f4 1 0 8eca 1 0",
    "8cc8 1 0 6ed1 1 0 4e32 1 0 53e5 1 0 9f9c 1 0 9f9c 1 0 5951 1 0 91d1 1 0 5587 1 0 5948 1 0",
    "61f6 1 0 7669 1 0 7f85 1 0 863f 1 0 87ba 1 0 88f8 1 0 908f 1 0 6a02 1 0 6d1b 1 0 70d9 1 0",
    "73de 1 0 843d 1 0 916a 1 0 99f1 1 0 4e82 1 0 5375 1 0 6b04 1 0 721b 1 0 862d 1 0 9e1e 1 0",
    "5d50 1 0 6feb 1 0 85cd 1 0 8964 1 0 62c9 1 0 81d8 1 0 881f 1 0 5eca 1 0 6717 1 0 6d6a 1 0",
    "72fc 1 0 90ce 1 0 4f86 1 0 51b7 1 0 52de 1 0 64c4 1 0 6ad3 1 0 7210 1 0 76e7 1 0 8001 1 0",
    "8606 1 0 865c 1 0 8def 1 0 9732 1 0 9b6f 1 0 9dfa 1 0 788c 1 0 797f 1 0 7da0 1 0 83c9 1 0",
    "9304 1 0 9e7f 1 0 8ad6 1 0 58df 1 0 5f04 1 0 7c60 1 0 807e 1 0 7262 1 0 78ca 1 0 8cc2 1 0",
    "96f7 1 0 58d8 1 0 5c62 1 0 6a13 1 0 6dda 1 0 6f0f 1 0 7d2f 1 0 7e37 1 0 964b 1 0 52d2 1 0",
    "808b 1 0 51dc 1 0 51cc 1 0 7a1c 1 0 7dbe 1 0 83f1 1 0 9675 1 0 8b80 1 0 62cf 1 0 6a02 1 0",
    "8afe 1 0 4e39 1 0 5be7 1 0 6012 1 0 7387 1 0 7570 1 0 5317 1 0 78fb 1 0 4fbf 1 0 5fa9 1 0",
    "4e0d 1 0 6ccc 1 0 6578 1 0 7d22 1 0 53c3 1 0 585e 1 0 7701 1 0 8449 1 0 8aaa 1 0 6bba 1 0",
    "8fb0 1 0 6c88 1 0 62fe 1 0 82e5 1 0 63a0 1 0 7565 1 0 4eae 1 0 5169 1 0 51c9 1 0 6881 1 0",
    "7ce7 1 0 826f 1 0 8ad2 1 0 91cf 1 0 52f5 1 0 5442 1 0 5973 1 0 5eec 1 0 65c5 1 0 6ffe 1 0",
    "792a 1 0 95ad 1 0 9a6a 1 0 9e97 1 0 9ece 1 0 529b 1 0 66c6 1 0 6b77 1 0 8f62 1 0 5e74 1 0",
    "6190 1 0 6200 1 0 649a 1 0 6f23 1 0 7149 1 0 7489 1 0 79ca 1 0 7df4 1 0 806f 1 0 8f26 1 0",
    "84ee 1 0 9023 1 0 934a 1 0 5217 1 0 52a3 1 0 54bd 1 0 70c8 1 0 88c2 1 0 8aaa 1 0 5ec9 1 0",
    "5ff5 1 0 637b 1 0 6bae 1 0 7c3e 1 0 7375 1 0 4ee4 1 0 56f9 1 0 5be7 1 0 5dba 1 0 601c 1 0",
    "73b2 1 0 7469 1 0 7f9a 1 0 8046 1 0 9234 1 0 96f6 1 0 9748 1 0 9818 1 0 4f8b 1 0 79ae 1 0",
    "91b4 1 0 96b8 1 0 60e1 1 0 4e86 1 0 50da 1 0 5bee 1 0 5c3f 1 0 6599 1 0 6a02 1 0 71ce 1 0",
    "7642 1 0 84fc 1 0 907c 1 0 9f8d 1 0 6688 1 0 962e 1 0 5289 1 0 677b 1 0 67f3 1 0 6d41 1 0",
    "6e9c 1 0 7409 1 0 7559 1 0 786b 1 0 7d10 1 0 985e 1 0 516d 1 0 622e 1 0 9678 1 0 502b 1 0",
    "5d19 1 0 6dea 1 0 8f2a 1 0 5f8b 1 0 6144 1 0 6817 1 0 7387 1 0 9686 1 0 5229 1 0 540f 1 0",
    "5c65 1 0 6613 1 0 674e 1 0 68a8 1 0 6ce5 1 0 7406 1 0 75e2 1 0 7f79 1 0 88cf 1 0 88e1 1 0",
    "91cc 1 0 96e2 1 0 533f 1 0 6eba 1 0 541d 1 0 71d0 1 0 7498 1 0 85fa 1 0 96a3 1 0 9c57 1 0",
    "9e9f 1 0 6797 1 0 6dcb 1 0 81e8 1 0 7acb 1 0 7b20 1 0 7c92 1 0 72c0 1 0 7099 1 0 8b58 1 0",
    "4ec0 1 0 8336 1 0 523a 1 0 5207 1 0 5ea6 1 0 62d3 1 0 7cd6 1 0 5b85 1 0 6d1e 1 0 66b4 1 0",
    "8f3b 1 0 884c 1 0 964d 1 0 898b 1 0 5ed3 1 0 5140 1 0 55c0 3 0 585a 2 0 6674 3 0 51de 1 0",
    "732a 1 0 76ca 1 0 793c 1 0 795e 1 0 7965 1 0 798f 1 0 9756 1 0 7cbe 1 0 7fbd 2 0 8612 2 0",
    "8af8 3 0 9038 1 0 90fd 4 0 98ef 1 0 98fc 1 0 9928 1 0 9db4 1 0 90de 1 0 96b7 1 0 4fae 1 0",
    "50e7 1 0 514d 1 0 52c9 1 0 52e4 1 0 5351 1 0 559d 1 0 5606 1 0 5668 1 0 5840 1 0 58a8 1 0",
    "5c64 1 0 5c6e 1 0 6094 1 0 6168 1 0 618e 1 0 61f2 1 0 654f 1 0 65e2 1 0 6691 1 0 6885 1 0",
    "6d77 1 0 6e1a 1 0 6f22 1 0 716e 1 0 722b 1 0 7422 1 0 7891 1 0 793e 1 0 7949 1 0 7948 1 0",
    "7950 1 0 7956 1 0 795d 1 1 798d 1 0 7a40 1 0 7a81 1 0 7bc0 1 0 7df4 1 0 7e09 1 0 7e41 1 0",
    "7f72 1 0 8005 1 0 81ed 1 0 8279 1 0 8279 1 0 8457 1 0 8910 1 0 8996 1 0 8b01 1 0 8b39 1 0",
    "8cd3 1 0 8d08 1 0 8fb6 1 0 9038 1 0 96e3 1 0 97ff 1 0 983b 1 0 6075 1 0 242ee 1 0 8218 3 0",
    "4e26 1 0 51b5 1 0 5168 1 0 4f80 1 0 5145 1 0 5180 1 0 52c7 1 0 52fa 1 0 559d 1 0 5555 1 0",
    "5599 1 0 55e2 1 0 585a 1 0 58b3 1 0 5944 1 0 5954 1 0 5a62 1 0 5b28 1 0 5ed2 1 0 5ed9 1 0",
    "5f69 1 0 5fad 1 0 60d8 1 0 614e 1 0 6108 1 0 618e 1 0 6160 1 0 61f2 1 0 6234 1 0 63c4 1 0",
    "641c 1 0 6452 1 0 6556 1 0 6674 1 0 6717 1 0 671b 1 0 6756 1 0 6b79 1 0 6bba 1 0 6d41 1 0",
    "6edb 1 0 6ecb 1 0 6f22 1 0 701e 1 0 716e 1 0 77a7 1 0 7235 1 0 72af 1 0 732a 1 0 7471 1 0",
    "7506 1 0 753b 1 0 761d 1 0 761f 1 0 76ca 1 0 76db 1 0 76f4 1 0 774a 1 0 7740 1 0 78cc 1 0",
    "7ab1 1 0 7bc0 1 0 7c7b 1 0 7d5b 1 0 7df4 1 0 7f3e 1 0 8005 1 0 8352 1 0 83ef 1 0 8779 1 0",
    "8941 1 0 8986 1 0 8996 1 0 8abf 1 0 8af8 1 0 8acb 1 0 8b01 1 0 8afe 1 0 8aed 1 0 8b39 1 0",
    "8b8a 1 0 8d08 1 0 8f38 1 0 9072 1 0 9199 1 0 9276 1 0 967c 1 0 96e3 1 0 9756 1 0 97db 1 0",
    "97ff 1 0 980b 1 0 983b 1 0 9b12 1 0 9f9c 1 0 2284a 1 0 22844 1 0 233d5 1 0 3b9d 1 0 4018 1 0",
    "4039 1 0 25249 1 0 25cd0 1 0 27ed3 1 0 9f43 1 0 9f8e 47 0 5e2 1 0 5d0 1 1 5d3 1 2 5db 1 0",
    "5e8 1 0 5ea 1 0 2b 27 0 671 1 0 671 1 0 67b 1 0 67b 1 0 67b 1 0 67b 1 0 67e 1 0 67e 1 0 67e",
    "1 0 67e 1 0 680 1 0 680 1 0 680 1 0 680 1 0 67a 1 0 67a 1 0 67a 1 0 67a 1 0 67f 1 0 67f 1 0",
    "67f 1 0 67f 1 0 679 1 0 679 1 0 679 1 0 679 1 0 6a4 1 0 6a4 1 0 6a4 1 0 6a4 1 0 6a6 1 0 6a6",
    "1 0 6a6 1 0 6a6 1 0 684 1 0 684 1 0 684 1 0 684 1 0 683 1 0 683 1 0 683 1 0 683 1 0 686 1 0",
    "686 1 0 686 1 1 686 1 0 687 1 0 687 1 0 687 1 0 68d 1 0 68d 1 0 68c 1 0 68c 1 0 68e 1 0 68e",
    "1 0 688 1 0 688 1 0 698 1 0 698 1 0 691 1 0 691 1 0 6a9 1 0 6a9 1 0 6a9 1 0 6a9 1 0 6af 1 0",
    "6af 1 0 6af 1 0 6af 1 0 6b3 1 0 6b3 1 0 6b3 1 0 6b3 1 0 6b1 1 0 6b1 1 0 6b1 1 0 6b1 1 0 6ba",
    "1 1 6ba 1 0 6bb 1 0 6bb 1 0 6bb 1 0 6c0 1 1 6c0 1 0 6c1 1 0 6c1 1 0 6c1 1 0 6be 1 0 6be 1 0",
    "6be 1 0 6be 1 0 6d2 1 1 6d2 1 0 6d3 22 0 6ad 1 0 6ad 1 0 6ad 1 0 6ad 1 0 6c7 1 0 6c7 1 0 6c6",
    "1 0 6c6 1 0 6c8 1 0 6c8 2 0 6cb 1 0 6cb 1 0 6c5 1 0 6c5 1 0 6c9 1 0 6c9 1 0 6d0 1 0 6d0 1 0",
    "6d0 1 0 6d0 1 0 649 1 0 649 13 0 6cc 1 0 6cc 1 0 6cc 1 0 6cc 211 0 2c 1 0 3001 2 1 3a 1 0 21",
    "1 0 3f 1 1 3016 19 0 2014 1 0 2013 1 0 5f 1 0 5f 1 1 28 1 0 7b 1 0 7d 1 1 3014 1 1 3010 1 1",
    "300a 1 1 3008 1 3 300c 3 0 5b 1 0 5d 5 0 5f 1 0 5f 1 0 5f 1 0 2c 1 0 3001 3 0 3b 1 0 3a 1 0",
    "3f 1 0 21 1 0 2014 1 1 28 1 0 7b 1 0 7d 1 1 3014 1 0 23 1 0 26 1 1 2a 1 0 2d 1 0 3c 1 0 3e 1",
    "0 3d 2 0 5c 1 1 24 1 0 40 15 1 621 1 1 622 1 1 623 1 1 624 1 1 625 1 0 626 1 0 626 1 1 626 1",
    "1 627 1 0 628 1 0 628 1 1 628 1 1 629 1 0 62a 1 0 62a 1 1 62a 1 0 62b 1 0 62b 1 1 62b 1 0",
    "62c 1 0 62c 1 1 62c 1 0 62d 1 0 62d 1 1 62d 1 0 62e 1 0 62e 1 1 62e 1 1 62f 1 1 630 1 1 631",
    "1 1 632 1 0 633 1 0 633 1 1 633 1 0 634 1 0 634 1 1 634 1 0 635 1 0 635 1 1 635 1 0 636 1 0",
    "636 1 1 636 1 0 637 1 0 637 1 1 637 1 0 638 1 0 638 1 1 638 1 0 639 1 0 639 1 1 639 1 0 63a",
    "1 0 63a 1 0 63a 1 0 641 1 0 641 1 0 641 1 1 641 1 0 642 1 0 642 1 1 642 1 0 643 1 0 643 1 1",
    "643 1 0 644 1 0 644 1 1 644 1 0 645 1 0 645 1 1 645 1 0 646 1 0 646 1 1 646 1 0 647 1 0 647",
    "1 1 647 1 1 648 1 1 649 1 0 64a 1 0 64a 1 0 64a d 1f 21 1 19 61 1 23 5b 1 1 2985 1 0 2e 1 1",
    "300c 1 0 3001 1 0 30fb 1 0 30f2 1 0 30a1 1 0 30a3 1 0 30a5 1 0 30a7 1 0 30a9 1 0 30e3 1 0",
    "30e5 1 0 30e7 1 0 30c3 1 0 30fc 1 0 30a2 1 0 30a4 1 0 30a6 1 0 30a8 1 1 30aa 1 0 30ad 1 0",
    "30af 1 0 30b1 1 0 30b3 1 0 30b5 1 0 30b7 1 0 30b9 1 0 30bb 1 0 30bd 1 0 30bf 1 0 30c1 1 0",
    "30c4 1 0 30c6 1 0 30c8 1 5 30ca 1 0 30d2 1 0 30d5 1 0 30d8 1 0 30db 1 4 30de 1 0 30e4 1 0",
    "30e6 1 5 30e8 1 0 30ef 1 0 30f3 1 1 3099 2 1 1100 1 0 11aa 1 0 1102 1 1 11ac 1 2 1103 1 5",
    "11b0 1 0 111a 1 2 1106 1 0 1121 1 9 1109 4 5 1161 3 5 1167 3 5 116d 3 2 1173 4 1 a2 1 0 ac 2",
    "0 a6 1 0 a5 1 0 20a9 2 0 2502 1 3 2190 1 0 25a0 1 0 25cb 412 27 10428 89 23 104d8 9d a 10597",
    "2 e 105a3 2 6 105b3 2 1 105bb 1ec 1 2d0 1 0 e6 1 0 299 1 0 253 2 0 2a3 1 0 ab66 1 0 2a5 1 0",
    "2a4 1 1 256 1 0 1d91 1 0 258 1 0 25e 1 0 2a9 1 0 264 1 0 262 1 0 260 1 0 29b 1 0 127 1 0 29c",
    "1 0 267 1 0 284 1 1 2aa 1 0 26c 1 0 1df04 1 0 a78e 1 0 26e 1 0 1df05 1 0 28e 1 0 1df06 1 0",
    "f8 1 1 276 1 0 71 1 0 27a 1 0 1df08 1 1 27d 1 0 280 1 0 2a8 1 0 2a6 1 0 ab67 1 0 2a7 1 0 288",
    "1 0 2c71 2 0 28f 1 1 2a1 1 0 298 1 2 1c0 1 0 1df0a 1 0 1df1e 1 0 287 1 1 296 1 0 29e 1 0",
    "1df0b 4c1 32 10cc0 9e 15 10d70 b3b 1f 118c0 5581 1f 16e60 41 18 16ebb 5e1e 19 61 1 9 30 707",
    "19 61 1 19 61 1 19 61 1 6 61 2 11 69 1 19 61 1 19 61 1 0 61 2 1 63 3 0 67 3 1 6a 3 3 6e 2 7",
    "73 1 3 61 2 0 66 2 6 68 2 a 70 1 19 61 1 19 61 1 1 61 2 3 64 3 7 6a 2 6 73 2 19 61 1 1 61 2",
    "3 64 2 4 69 2 0 6f 4 6 73 2 19 61 1 19 61 1 19 61 1 19 61 1 19 61 1 19 61 1 19 61 1 19 61 1",
    "19 61 1 19 61 1 19 61 1 19 61 1 19 61 1 0 131 1 0 237 3 10 3b1 1 0 3b8 1 6 3c3 1 0 2207 1 10",
    "3b1 1 0 3c3 1 6 3c3 1 0 2202 1 0 3b5 1 0 3b8 1 0 3ba 1 0 3c6 1 0 3c1 1 0 3c0 1 10 3b1 1 0",
    "3b8 1 6 3c3 1 0 2207 1 10 3b1 1 0 3c3 1 6 3c3 1 0 2202 1 0 3b5 1 0 3b8 1 0 3ba 1 0 3c6 1 0",
    "3c1 1 0 3c0 1 10 3b1 1 0 3b8 1 6 3c3 1 0 2207 1 10 3b1 1 0 3c3 1 6 3c3 1 0 2202 1 0 3b5 1 0",
    "3b8 1 0 3ba 1 0 3c6 1 0 3c1 1 0 3c0 1 10 3b1 1 0 3b8 1 6 3c3 1 0 2207 1 10 3b1 1 0 3c3 1 6",
    "3c3 1 0 2202 1 0 3b5 1 0 3b8 1 0 3ba 1 0 3c6 1 0 3c1 1 0 3c0 1 10 3b1 1 0 3b8 1 6 3c3 1 0",
    "2207 1 10 3b1 1 0 3c3 1 6 3c3 1 0 2202 1 0 3b5 1 0 3b8 1 0 3ba 1 0 3c6 1 0 3c1 1 0 3c0 1 0",
    "3dd 1 0 3dd 3 9 30 1 9 30 1 9 30 1 9 30 1 9 30 769 0 1df69 65 0 1df57 3 0 263 60 8 430 1 2",
    "43a 1 a 43e 1 0 44b 1 1 44d 1 0 a689 1 0 4d9 1 0 456 1 0 458 1 0 4e9 1 0 4af 1 0 4cf 1 8 430",
    "1 1 43a 1 1 43e 1 0 441 1 5 443 1 1 44a 1 0 491 1 0 456 1 0 455 1 0 45f 1 0 4ab 1 0 a651 1 0",
    "4b1 893 21 1e922 4df 1 627 1 0 62c 1 0 62f 2 0 648 1 0 632 1 0 62d 1 0 637 1 0 64a 1 3 643 1",
    "0 633 1 0 639 1 0 641 1 0 635 1 0 642 1 0 631 1 0 634 1 1 62a 1 0 62e 1 0 630 1 0 636 1 0",
    "638 1 0 63a 1 0 66e 1 0 6ba 1 0 6a1 1 0 66f 2 0 628 1 0 62c 2 0 647 3 0 62d 2 0 64a 1 3 643",
    "1 0 633 1 0 639 1 0 641 1 0 635 1 0 642 2 0 634 1 1 62a 1 0 62e 2 0 636 2 0 63a 7 0 62c 5 0",
    "62d 2 0 64a 2 0 644 2 0 646 1 0 633 1 0 639 2 0 635 1 0 642 2 0 634 3 0 62e 2 0 636 2 0 63a",
    "2 0 6ba 2 0 66f 2 0 628 1 0 62c 2 0 647 3 0 62d 1 0 637 1 0 64a 1 0 643 2 1 645 1 0 633 1 0",
    "639 1 0 641 1 0 635 1 0 642 2 0 634 1 1 62a 1 0 62e 2 0 636 1 0 638 1 0 63a 1 0 66e 2 0 6a1",
    "2 1 627 1 0 62c 1 0 62f 1 1 647 1 0 632 1 0 62d 1 0 637 1 0 64a 2 2 644 1 0 633 1 0 639 1 0",
    "641 1 0 635 1 0 642 1 0 631 1 0 634 1 1 62a 1 0 62e 1 0 630 1 0 636 1 0 638 1 0 63a 6 0 628",
    "1 0 62c 1 0 62f 2 0 648 1 0 632 1 0 62d 1 0 637 1 0 64a 2 2 644 1 0 633 1 0 639 1 0 641 1 0",
    "635 1 0 642 1 0 631 1 0 634 1 1 62a 1 0 62e 1 0 630 1 0 636 1 0 638 1 0 63a 270 0 63 1 0 72",
    "4 19 61 b9 0 30b5 e 0 624b 1 0 5b57 1 0 53cc 1 0 30c7 1 0 4e8c 1 0 591a 1 0 89e3 1 0 5929 1",
    "0 4ea4 1 0 6620 1 0 7121 1 0 6599 1 0 524d 1 0 5f8c 1 0 518d 1 0 65b0 1 0 521d 1 0 7d42 1 0",
    "751f 1 0 8ca9 1 0 58f0 1 0 5439 1 0 6f14 1 0 6295 1 0 6355 1 0 4e00 1 0 4e09 1 0 904a 1 0",
    "5de6 1 0 4e2d 1 0 53f3 1 0 6307 1 0 8d70 1 0 6253 1 0 7981 1 0 7a7a 1 0 5408 1 0 6e80 1 0",
    "6709 1 0 6708 1 0 7533 1 0 5272 1 0 55b6 1 0 914d 15 0 5f97 1 0 53ef 99f 9 30 fc07 0 4e3d 1",
    "0 4e38 1 0 4e41 1 0 20122 1 0 4f60 1 0 4fae 1 0 4fbb 1 0 5002 1 0 507a 1 0 5099 1 0 50e7 1 0",
    "50cf 1 0 349e 1 0 2063a 1 0 514d 1 0 5154 1 0 5164 1 0 5177 1 0 2051c 1 0 34b9 1 0 5167 1 0",
    "518d 1 0 2054b 1 0 5197 1 0 51a4 1 0 4ecc 1 0 51ac 1 0 51b5 1 0 291df 1 0 51f5 1 0 5203 1 0",
    "34df 1 0 523b 1 0 5246 1 0 5272 1 0 5277 1 0 3515 1 0 52c7 1 0 52c9 1 0 52e4 1 0 52fa 1 1",
    "5305 1 0 5317 1 0 5349 1 0 5351 1 0 535a 1 0 5373 1 0 537d 1 0 537f 1 0 537f 1 0 537f 1 0",
    "20a2c 1 0 7070 1 0 53ca 1 0 53df 1 0 20b63 1 0 53eb 1 0 53f1 1 0 5406 1 0 549e 1 0 5438 1 0",
    "5448 1 0 5468 1 0 54a2 1 0 54f6 1 0 5510 1 0 5553 1 0 5563 1 0 5584 1 0 5584 1 0 5599 1 0",
    "55ab 1 0 55b3 1 0 55c2 1 0 5716 1 0 5606 1 0 5717 1 0 5651 1 0 5674 1 0 5207 1 0 58ee 1 0",
    "57ce 1 0 57f4 1 0 580d 1 0 578b 1 0 5832 1 0 5831 1 0 58ac 1 0 214e4 1 0 58f2 1 0 58f7 1 0",
    "5906 1 0 591a 1 0 5922 1 0 5962 1 0 216a8 1 0 216ea 1 0 59ec 1 0 5a1b 1 0 5a27 1 0 59d8 1 0",
    "5a66 1 0 36ee 1 0 36fc 1 0 5b08 1 0 5b3e 1 0 5b3e 1 0 219c8 1 0 5bc3 1 0 5bd8 1 0 5be7 1 0",
    "5bf3 1 0 21b18 1 0 5bff 1 0 5c06 1 0 5f53 1 0 5c22 1 0 3781 1 0 5c60 1 0 5c6e 1 0 5cc0 1 0",
    "5c8d 1 0 21de4 1 0 5d43 1 0 21de6 1 0 5d6e 1 0 5d6b 1 0 5d7c 1 1 5de1 1 0 382f 1 0 5dfd 1 0",
    "5e28 1 0 5e3d 1 0 5e69 1 0 3862 1 0 22183 1 0 387c 1 0 5eb0 1 0 5eb3 1 0 5eb6 1 0 5eca 1 0",
    "2a392 1 0 5efe 1 0 22331 1 0 22331 1 0 8201 1 0 5f22 1 0 5f22 1 0 38c7 1 0 232b8 1 0 261da 1",
    "0 5f62 1 0 5f6b 1 0 38e3 1 0 5f9a 1 0 5fcd 1 0 5fd7 1 0 5ff9 1 0 6081 1 0 393a 1 0 391c 1 0",
    "6094 1 0 226d4 1 0 60c7 1 0 6148 1 0 614c 1 0 614e 1 0 614c 1 0 617a 1 0 618e 1 0 61b2 1 0",
    "61a4 1 0 61af 1 0 61de 1 0 61f2 1 0 61f6 1 0 6210 1 0 621b 1 0 625d 1 0 62b1 1 0 62d4 1 0",
    "6350 1 0 22b0c 1 0 633d 1 0 62fc 1 0 6368 1 0 6383 1 0 63e4 1 0 22bf1 1 0 6422 1 0 63c5 1 0",
    "63a9 1 0 3a2e 1 0 6469 1 0 647e 1 0 649d 1 0 6477 1 0 3a6c 1 0 654f 1 0 656c 1 0 2300a 1 0",
    "65e3 1 0 66f8 1 0 6649 1 0 3b19 1 0 6691 1 0 3b08 1 0 3ae4 1 0 5192 1 0 5195 1 0 6700 1 0",
    "669c 1 0 80ad 1 0 43d9 1 0 6717 1 0 671b 1 0 6721 1 0 675e 1 0 6753 1 0 233c3 1 0 3b49 1 0",
    "67fa 1 0 6785 1 0 6852 1 0 6885 1 0 2346d 1 0 688e 1 0 681f 1 0 6914 1 0 3b9d 1 0 6942 1 0",
    "69a3 1 0 69ea 1 0 6aa8 1 0 236a3 1 0 6adb 1 0 3c18 1 0 6b21 1 0 238a7 1 0 6b54 1 0 3c4e 1 0",
    "6b72 1 0 6b9f 1 1 6bba 1 0 23a8d 1 0 21d0b 1 0 23afa 1 0 6c4e 1 0 23cbc 1 0 6cbf 1 0 6ccd 1",
    "0 6c67 1 0 6d16 1 0 6d3e 1 0 6d77 1 0 6d41 1 0 6d69 1 0 6d78 1 0 6d85 1 0 23d1e 1 0 6d34 1 0",
    "6e2f 1 0 6e6e 1 0 3d33 1 0 6ecb 1 0 6ec7 1 0 23ed1 1 0 6df9 1 0 6f6e 1 0 23f5e 1 0 23f8e 1 0",
    "6fc6 1 0 7039 1 0 701e 1 0 701b 1 0 3d96 1 0 704a 1 0 707d 1 0 7077 1 0 70ad 1 0 20525 1 0",
    "7145 1 0 24263 1 0 719c 1 0 243ab 1 0 7228 1 0 7235 1 0 7250 1 0 24608 1 0 7280 1 0 7295 1 0",
    "24735 1 0 24814 1 0 737a 1 0 738b 1 0 3eac 1 0 73a5 1 0 3eb8 1 0 3eb8 1 0 7447 1 0 745c 1 0",
    "7471 1 0 7485 1 0 74ca 1 0 3f1b 1 0 7524 1 0 24c36 1 0 753e 1 0 24c92 1 0 7570 1 0 2219f 1 0",
    "7610 1 0 24fa1 1 0 24fb8 1 0 25044 1 0 3ffc 1 0 4008 1 0 76f4 1 0 250f3 1 0 250f2 1 0 25119",
    "1 0 25133 1 1 771e 1 0 771f 1 0 774a 1 0 4039 1 0 778b 1 0 4046 1 0 4096 1 0 2541d 1 0 784e",
    "1 0 788c 1 0 78cc 1 0 40e3 1 0 25626 1 0 7956 1 0 2569a 1 0 256c5 1 0 798f 1 0 79eb 1 0 412f",
    "1 0 7a40 1 0 7a4a 1 0 7a4f 1 0 2597c 1 0 25aa7 1 0 25aa7 1 0 7aee 1 0 4202 1 0 25bab 1 0",
    "7bc6 1 0 7bc9 1 0 4227 1 0 25c80 1 0 7cd2 1 0 42a0 1 0 7ce8 1 0 7ce3 1 0 7d00 1 0 25f86 1 0",
    "7d63 1 0 4301 1 0 7dc7 1 0 7e02 1 0 7e45 1 0 4334 1 0 26228 1 0 26247 1 0 4359 1 0 262d9 1 0",
    "7f7a 1 0 2633e 1 0 7f95 1 0 7ffa 1 0 8005 1 0 264da 1 0 26523 1 0 8060 1 0 265a8 1 0 8070 1",
    "0 2335f 1 0 43d5 1 0 80b2 1 0 8103 1 0 440b 1 0 813e 1 0 5ab5 1 0 267a7 1 0 267b5 1 0 23393",
    "1 0 2339c 1 0 8201 1 0 8204 1 0 8f9e 1 0 446b 1 0 8291 1 0 828b 1 0 829d 1 0 52b3 1 0 82b1 1",
    "0 82b3 1 0 82bd 1 0 82e6 1 0 26b3c 1 0 82e5 1 0 831d 1 0 8363 1 0 83ad 1 0 8323 1 0 83bd 1 0",
    "83e7 1 0 8457 1 0 8353 1 0 83ca 1 0 83cc 1 0 83dc 1 0 26c36 1 0 26d6b 1 0 26cd5 1 0 452b 1 0",
    "84f1 1 0 84f3 1 0 8516 1 0 273ca 1 0 8564 1 0 26f2c 1 0 455d 1 0 4561 1 0 26fb1 1 0 270d2 1",
    "0 456b 1 0 8650 1 0 865c 1 0 8667 1 0 8669 1 0 86a9 1 0 8688 1 0 870e 1 0 86e2 1 0 8779 1 0",
    "8728 1 0 876b 1 0 8786 1 0 45d7 1 0 87e1 1 0 8801 1 0 45f9 1 0 8860 1 0 8863 1 0 27667 1 0",
    "88d7 1 0 88de 1 0 4635 1 0 88fa 1 0 34bb 1 0 278ae 1 0 27966 1 0 46be 1 0 46c7 1 0 8aa0 1 0",
    "8aed 1 0 8b8a 1 0 8c55 1 0 27ca8 1 0 8cab 1 0 8cc1 1 0 8d1b 1 0 8d77 1 0 27f2f 1 0 20804 1 0",
    "8dcb 1 0 8dbc 1 0 8df0 1 0 208de 1 0 8ed4 1 0 8f38 1 0 285d2 1 0 285ed 1 0 9094 1 0 90f1 1 0",
    "9111 1 0 2872e 1 0 911b 1 0 9238 1 1 92d7 1 0 927c 1 0 93f9 1 0 9415 1 0 28bfa 1 0 958b 1 0",
    "4995 1 0 95b7 1 0 28d77 1 0 49e6 1 0 96c3 1 0 5db2 1 0 9723 1 0 29145 1 0 2921a 1 0 4a6e 1 0",
    "4a76 1 0 97e0 1 0 2940a 1 0 4ab2 1 0 29496 1 0 980b 1 0 980b 1 0 9829 1 0 295b6 1 0 98e2 1 0",
    "4b33 1 0 9929 1 0 99a7 1 0 99c2 1 0 99fe 1 0 4bce 1 0 29b30 1 0 9b12 1 0 9c40 1 0 9cfd 1 0",
    "4cce 1 0 4ced 1 0 9d67 1 0 2a0ce 1 0 4cf8 1 0 2a105 1 0 2a20e 1 0 2a291 1 0 9ebb 1 0 4d56 1",
    "0 9ef9 1 0 9efe 1 0 9f05 1 0 9f0f 1 0 9f16 1 0 9f3b 1 0 2a600"]

structure Expansion where
  point : Nat
  text : List Nat
  deriving DecidableEq, Repr

/-- The rows hold the distance from the point before, the length of the text, and the text. -/
def ofGaps : Nat → Nat → List Nat → List Expansion
  | fuel + 1, last, gap :: count :: r =>
    ⟨last + gap, r.take count⟩ :: ofGaps fuel (last + gap) (r.drop count)
  | _, _, _ => []

def expansionNumbers : List Nat := Ranges.numbers [
    "a8 2 20 308 7 2 20 304 5 2 20 301 4 2 20 327 4 3 31 2044 34 1 3 31 2044 32 1 3 33 2044 34 72",
    "2 69 307 2 2 69 6a 1 2 69 6a c 2 6c b7 1 2 6c b7 9 2 2bc 6e 7b 2 64 17e 1 2 64 17e 1 2 64",
    "17e 1 2 6c 6a 1 2 6c 6a 1 2 6c 6a 1 2 6e 6a 1 2 6e 6a 1 2 6e 6a 25 2 64 7a 1 2 64 7a 1 2 64",
    "7a e5 2 20 306 1 2 20 307 1 2 20 30a 1 2 20 328 1 2 20 303 1 2 20 30b 67 2 308 301 36 2 20",
    "3b9 a 2 20 301 1 3 20 308 301 202 2 565 582 ee 2 627 674 1 2 648 674 1 2 6c7 674 1 2 64a 674",
    "2e0 2 915 93c 1 2 916 93c 1 2 917 93c 1 2 91c 93c 1 2 921 93c 1 2 922 93c 1 2 92b 93c 1 2",
    "92f 93c 7d 2 9a1 9bc 1 2 9a2 9bc 2 2 9af 9bc 54 2 a32 a3c 3 2 a38 a3c 23 2 a16 a3c 1 2 a17",
    "a3c 1 2 a1c a3c 3 2 a2b a3c fe 2 b21 b3c 1 2 b22 b3c 2d6 2 e4d e32 80 2 ecd eb2 29 2 eab e99",
    "1 2 eab ea1 66 2 f42 fb7 a 2 f4c fb7 5 2 f51 fb7 5 2 f56 fb7 5 2 f5b fb7 d 2 f40 fb5 a 2 f71",
    "f72 2 2 f71 f74 1 2 fb2 f80 1 3 fb2 f71 f80 1 2 fb3 f80 1 3 fb3 f71 f80 8 2 f71 f80 12 2 f92",
    "fb7 a 2 f9c fb7 5 2 fa1 fb7 5 2 fa6 fb7 5 2 fab fb7 d 2 f90 fb5 ee1 2 61 2be e6 2 1f00 3b9 1",
    "2 1f01 3b9 1 2 1f02 3b9 1 2 1f03 3b9 1 2 1f04 3b9 1 2 1f05 3b9 1 2 1f06 3b9 1 2 1f07 3b9 1 2",
    "1f00 3b9 1 2 1f01 3b9 1 2 1f02 3b9 1 2 1f03 3b9 1 2 1f04 3b9 1 2 1f05 3b9 1 2 1f06 3b9 1 2",
    "1f07 3b9 1 2 1f20 3b9 1 2 1f21 3b9 1 2 1f22 3b9 1 2 1f23 3b9 1 2 1f24 3b9 1 2 1f25 3b9 1 2",
    "1f26 3b9 1 2 1f27 3b9 1 2 1f20 3b9 1 2 1f21 3b9 1 2 1f22 3b9 1 2 1f23 3b9 1 2 1f24 3b9 1 2",
    "1f25 3b9 1 2 1f26 3b9 1 2 1f27 3b9 1 2 1f60 3b9 1 2 1f61 3b9 1 2 1f62 3b9 1 2 1f63 3b9 1 2",
    "1f64 3b9 1 2 1f65 3b9 1 2 1f66 3b9 1 2 1f67 3b9 1 2 1f60 3b9 1 2 1f61 3b9 1 2 1f62 3b9 1 2",
    "1f63 3b9 1 2 1f64 3b9 1 2 1f65 3b9 1 2 1f66 3b9 1 2 1f67 3b9 3 2 1f70 3b9 1 2 3b1 3b9 1 2",
    "3ac 3b9 3 2 1fb6 3b9 5 2 3b1 3b9 1 2 20 313 2 2 20 313 1 2 20 342 1 3 20 308 342 1 2 1f74",
    "3b9 1 2 3b7 3b9 1 2 3ae 3b9 3 2 1fc6 3b9 5 2 3b7 3b9 1 3 20 313 300 1 3 20 313 301 1 3 20",
    "313 342 e 3 20 314 300 1 3 20 314 301 1 3 20 314 342 e 3 20 308 300 1 3 20 308 301 4 2 1f7c",
    "3b9 1 2 3c9 3b9 1 2 3ce 3b9 3 2 1ff6 3b9 5 2 3c9 3b9 1 2 20 301 1 2 20 314 19 2 20 333 1c 2",
    "2032 2032 1 3 2032 2032 2032 2 2 2035 2035 1 3 2035 2035 2035 5 2 21 21 2 2 20 305 9 2 3f 3f",
    "1 2 3f 21 1 2 21 3f e 4 2032 2032 2032 2032 51 2 72 73 58 3 61 2f 63 1 3 61 2f 73 2 2 b0 63",
    "2 3 63 2f 6f 1 3 63 2f 75 3 2 b0 66 d 2 6e 6f a 2 73 6d 1 3 74 65 6c 1 2 74 6d 19 3 66 61 78",
    "15 3 31 2044 37 1 3 31 2044 39 1 4 31 2044 31 30 1 3 31 2044 33 1 3 32 2044 33 1 3 31 2044",
    "35 1 3 32 2044 35 1 3 33 2044 35 1 3 34 2044 35 1 3 31 2044 36 1 3 35 2044 36 1 3 31 2044 38",
    "1 3 33 2044 38 1 3 35 2044 38 1 3 37 2044 38 1 2 31 2044 2 2 69 69 1 3 69 69 69 1 2 69 76 2",
    "2 76 69 1 3 76 69 69 1 4 76 69 69 69 1 2 69 78 2 2 78 69 1 3 78 69 69 6 2 69 69 1 3 69 69 69",
    "1 2 69 76 2 2 76 69 1 3 76 69 69 1 4 76 69 69 69 1 2 69 78 2 2 78 69 1 3 78 69 69 e 3 30",
    "2044 33 a3 2 222b 222b 1 3 222b 222b 222b 2 2 222e 222e 1 3 222e 222e 222e 239 2 31 30 1 2",
    "31 31 1 2 31 32 1 2 31 33 1 2 31 34 1 2 31 35 1 2 31 36 1 2 31 37 1 2 31 38 1 2 31 39 1 2 32",
    "30 1 3 28 31 29 1 3 28 32 29 1 3 28 33 29 1 3 28 34 29 1 3 28 35 29 1 3 28 36 29 1 3 28 37",
    "29 1 3 28 38 29 1 3 28 39 29 1 4 28 31 30 29 1 4 28 31 31 29 1 4 28 31 32 29 1 4 28 31 33 29",
    "1 4 28 31 34 29 1 4 28 31 35 29 1 4 28 31 36 29 1 4 28 31 37 29 1 4 28 31 38 29 1 4 28 31 39",
    "29 1 4 28 32 30 29 15 3 28 61 29 1 3 28 62 29 1 3 28 63 29 1 3 28 64 29 1 3 28 65 29 1 3 28",
    "66 29 1 3 28 67 29 1 3 28 68 29 1 3 28 69 29 1 3 28 6a 29 1 3 28 6b 29 1 3 28 6c 29 1 3 28",
    "6d 29 1 3 28 6e 29 1 3 28 6f 29 1 3 28 70 29 1 3 28 71 29 1 3 28 72 29 1 3 28 73 29 1 3 28",
    "74 29 1 3 28 75 29 1 3 28 76 29 1 3 28 77 29 1 3 28 78 29 1 3 28 79 29 1 3 28 7a 29 557 4",
    "222b 222b 222b 222b 68 3 3a 3a 3d 1 2 3d 3d 1 3 3d 3d 3d 66 2 2add 338 5bf 2 20 3099 1 2 20",
    "309a 3 2 3088 308a 60 2 30b3 30c8 101 3 28 1100 29 1 3 28 1102 29 1 3 28 1103 29 1 3 28 1105",
    "29 1 3 28 1106 29 1 3 28 1107 29 1 3 28 1109 29 1 3 28 110b 29 1 3 28 110c 29 1 3 28 110e 29",
    "1 3 28 110f 29 1 3 28 1110 29 1 3 28 1111 29 1 3 28 1112 29 1 3 28 ac00 29 1 3 28 b098 29 1",
    "3 28 b2e4 29 1 3 28 b77c 29 1 3 28 b9c8 29 1 3 28 bc14 29 1 3 28 c0ac 29 1 3 28 c544 29 1 3",
    "28 c790 29 1 3 28 cc28 29 1 3 28 ce74 29 1 3 28 d0c0 29 1 3 28 d30c 29 1 3 28 d558 29 1 3 28",
    "c8fc 29 1 4 28 c624 c804 29 1 4 28 c624 d6c4 29 2 3 28 4e00 29 1 3 28 4e8c 29 1 3 28 4e09 29",
    "1 3 28 56db 29 1 3 28 4e94 29 1 3 28 516d 29 1 3 28 4e03 29 1 3 28 516b 29 1 3 28 4e5d 29 1",
    "3 28 5341 29 1 3 28 6708 29 1 3 28 706b 29 1 3 28 6c34 29 1 3 28 6728 29 1 3 28 91d1 29 1 3",
    "28 571f 29 1 3 28 65e5 29 1 3 28 682a 29 1 3 28 6709 29 1 3 28 793e 29 1 3 28 540d 29 1 3 28",
    "7279 29 1 3 28 8ca1 29 1 3 28 795d 29 1 3 28 52b4 29 1 3 28 4ee3 29 1 3 28 547c 29 1 3 28",
    "5b66 29 1 3 28 76e3 29 1 3 28 4f01 29 1 3 28 8cc7 29 1 3 28 5354 29 1 3 28 796d 29 1 3 28",
    "4f11 29 1 3 28 81ea 29 1 3 28 81f3 29 d 3 70 74 65 1 2 32 31 1 2 32 32 1 2 32 33 1 2 32 34 1",
    "2 32 35 1 2 32 36 1 2 32 37 1 2 32 38 1 2 32 39 1 2 33 30 1 2 33 31 1 2 33 32 1 2 33 33 1 2",
    "33 34 1 2 33 35 1d 2 cc38 ace0 1 2 c8fc c758 34 2 33 36 1 2 33 37 1 2 33 38 1 2 33 39 1 2 34",
    "30 1 2 34 31 1 2 34 32 1 2 34 33 1 2 34 34 1 2 34 35 1 2 34 36 1 2 34 37 1 2 34 38 1 2 34 39",
    "1 2 35 30 1 2 31 6708 1 2 32 6708 1 2 33 6708 1 2 34 6708 1 2 35 6708 1 2 36 6708 1 2 37",
    "6708 1 2 38 6708 1 2 39 6708 1 3 31 30 6708 1 3 31 31 6708 1 3 31 32 6708 1 2 68 67 1 3 65",
    "72 67 1 2 65 76 1 3 6c 74 64 30 2 4ee4 548c 1 4 30a2 30d1 30fc 30c8 1 4 30a2 30eb 30d5 30a1",
    "1 4 30a2 30f3 30da 30a2 1 3 30a2 30fc 30eb 1 4 30a4 30cb 30f3 30b0 1 3 30a4 30f3 30c1 1 3",
    "30a6 30a9 30f3 1 5 30a8 30b9 30af 30fc 30c9 1 4 30a8 30fc 30ab 30fc 1 3 30aa 30f3 30b9 1 3",
    "30aa 30fc 30e0 1 3 30ab 30a4 30ea 1 4 30ab 30e9 30c3 30c8 1 4 30ab 30ed 30ea 30fc 1 3 30ac",
    "30ed 30f3 1 3 30ac 30f3 30de 1 2 30ae 30ac 1 3 30ae 30cb 30fc 1 4 30ad 30e5 30ea 30fc 1 4",
    "30ae 30eb 30c0 30fc 1 2 30ad 30ed 1 5 30ad 30ed 30b0 30e9 30e0 1 6 30ad 30ed 30e1 30fc 30c8",
    "30eb 1 5 30ad 30ed 30ef 30c3 30c8 1 3 30b0 30e9 30e0 1 5 30b0 30e9 30e0 30c8 30f3 1 5 30af",
    "30eb 30bc 30a4 30ed 1 4 30af 30ed 30fc 30cd 1 3 30b1 30fc 30b9 1 3 30b3 30eb 30ca 1 3 30b3",
    "30fc 30dd 1 4 30b5 30a4 30af 30eb 1 5 30b5 30f3 30c1 30fc 30e0 1 4 30b7 30ea 30f3 30b0 1 3",
    "30bb 30f3 30c1 1 3 30bb 30f3 30c8 1 3 30c0 30fc 30b9 1 2 30c7 30b7 1 2 30c9 30eb 1 2 30c8",
    "30f3 1 2 30ca 30ce 1 3 30ce 30c3 30c8 1 3 30cf 30a4 30c4 1 5 30d1 30fc 30bb 30f3 30c8 1 3",
    "30d1 30fc 30c4 1 4 30d0 30fc 30ec 30eb 1 5 30d4 30a2 30b9 30c8 30eb 1 3 30d4 30af 30eb 1 2",
    "30d4 30b3 1 2 30d3 30eb 1 5 30d5 30a1 30e9 30c3 30c9 1 4 30d5 30a3 30fc 30c8 1 5 30d6 30c3",
    "30b7 30a7 30eb 1 3 30d5 30e9 30f3 1 5 30d8 30af 30bf 30fc 30eb 1 2 30da 30bd 1 3 30da 30cb",
    "30d2 1 3 30d8 30eb 30c4 1 3 30da 30f3 30b9 1 3 30da 30fc 30b8 1 3 30d9 30fc 30bf 1 4 30dd",
    "30a4 30f3 30c8 1 3 30dc 30eb 30c8 1 2 30db 30f3 1 3 30dd 30f3 30c9 1 3 30db 30fc 30eb 1 3",
    "30db 30fc 30f3 1 4 30de 30a4 30af 30ed 1 3 30de 30a4 30eb 1 3 30de 30c3 30cf 1 3 30de 30eb",
    "30af 1 5 30de 30f3 30b7 30e7 30f3 1 4 30df 30af 30ed 30f3 1 2 30df 30ea 1 5 30df 30ea 30d0",
    "30fc 30eb 1 2 30e1 30ac 1 4 30e1 30ac 30c8 30f3 1 4 30e1 30fc 30c8 30eb 1 3 30e4 30fc 30c9 1",
    "3 30e4 30fc 30eb 1 3 30e6 30a2 30f3 1 4 30ea 30c3 30c8 30eb 1 2 30ea 30e9 1 3 30eb 30d4 30fc",
    "1 4 30eb 30fc 30d6 30eb 1 2 30ec 30e0 1 5 30ec 30f3 30c8 30b2 30f3 1 3 30ef 30c3 30c8 1 2 30",
    "70b9 1 2 31 70b9 1 2 32 70b9 1 2 33 70b9 1 2 34 70b9 1 2 35 70b9 1 2 36 70b9 1 2 37 70b9 1 2",
    "38 70b9 1 2 39 70b9 1 3 31 30 70b9 1 3 31 31 70b9 1 3 31 32 70b9 1 3 31 33 70b9 1 3 31 34",
    "70b9 1 3 31 35 70b9 1 3 31 36 70b9 1 3 31 37 70b9 1 3 31 38 70b9 1 3 31 39 70b9 1 3 32 30",
    "70b9 1 3 32 31 70b9 1 3 32 32 70b9 1 3 32 33 70b9 1 3 32 34 70b9 1 3 68 70 61 1 2 64 61 1 2",
    "61 75 1 3 62 61 72 1 2 6f 76 1 2 70 63 1 2 64 6d 1 3 64 6d 32 1 3 64 6d 33 1 2 69 75 1 2",
    "5e73 6210 1 2 662d 548c 1 2 5927 6b63 1 2 660e 6cbb 1 4 682a 5f0f 4f1a 793e 1 2 70 61 1 2 6e",
    "61 1 2 3bc 61 1 2 6d 61 1 2 6b 61 1 2 6b 62 1 2 6d 62 1 2 67 62 1 3 63 61 6c 1 4 6b 63 61 6c",
    "1 2 70 66 1 2 6e 66 1 2 3bc 66 1 2 3bc 67 1 2 6d 67 1 2 6b 67 1 2 68 7a 1 3 6b 68 7a 1 3 6d",
    "68 7a 1 3 67 68 7a 1 3 74 68 7a 1 2 3bc 6c 1 2 6d 6c 1 2 64 6c 1 2 6b 6c 1 2 66 6d 1 2 6e 6d",
    "1 2 3bc 6d 1 2 6d 6d 1 2 63 6d 1 2 6b 6d 1 3 6d 6d 32 1 3 63 6d 32 1 2 6d 32 1 3 6b 6d 32 1",
    "3 6d 6d 33 1 3 63 6d 33 1 2 6d 33 1 3 6b 6d 33 1 3 6d 2215 73 1 4 6d 2215 73 32 1 2 70 61 1",
    "3 6b 70 61 1 3 6d 70 61 1 3 67 70 61 1 3 72 61 64 1 5 72 61 64 2215 73 1 6 72 61 64 2215 73",
    "32 1 2 70 73 1 2 6e 73 1 2 3bc 73 1 2 6d 73 1 2 70 76 1 2 6e 76 1 2 3bc 76 1 2 6d 76 1 2 6b",
    "76 1 2 6d 76 1 2 70 77 1 2 6e 77 1 2 3bc 77 1 2 6d 77 1 2 6b 77 1 2 6d 77 1 2 6b 3c9 1 2 6d",
    "3c9 2 2 62 71 1 2 63 63 1 2 63 64 1 4 63 2215 6b 67 2 2 64 62 1 2 67 79 1 2 68 61 1 2 68 70",
    "1 2 69 6e 1 2 6b 6b 1 2 6b 6d 1 2 6b 74 1 2 6c 6d 1 2 6c 6e 1 3 6c 6f 67 1 2 6c 78 1 2 6d 62",
    "1 3 6d 69 6c 1 3 6d 6f 6c 1 2 70 68 2 3 70 70 6d 1 2 70 72 1 2 73 72 1 2 73 76 1 2 77 62 1 3",
    "76 2215 6d 1 3 61 2215 6d 1 2 31 65e5 1 2 32 65e5 1 2 33 65e5 1 2 34 65e5 1 2 35 65e5 1 2 36",
    "65e5 1 2 37 65e5 1 2 38 65e5 1 2 39 65e5 1 3 31 30 65e5 1 3 31 31 65e5 1 3 31 32 65e5 1 3 31",
    "33 65e5 1 3 31 34 65e5 1 3 31 35 65e5 1 3 31 36 65e5 1 3 31 37 65e5 1 3 31 38 65e5 1 3 31 39",
    "65e5 1 3 32 30 65e5 1 3 32 31 65e5 1 3 32 32 65e5 1 3 32 33 65e5 1 3 32 34 65e5 1 3 32 35",
    "65e5 1 3 32 36 65e5 1 3 32 37 65e5 1 3 32 38 65e5 1 3 32 39 65e5 1 3 33 30 65e5 1 3 33 31",
    "65e5 1 3 67 61 6c c701 2 66 66 1 2 66 69 1 2 66 6c 1 3 66 66 69 1 3 66 66 6c 1 2 73 74 1 2",
    "73 74 d 2 574 576 1 2 574 565 1 2 574 56b 1 2 57e 576 1 2 574 56d 6 2 5d9 5b4 2 2 5f2 5b7 b",
    "2 5e9 5c1 1 2 5e9 5c2 1 3 5e9 5bc 5c1 1 3 5e9 5bc 5c2 1 2 5d0 5b7 1 2 5d0 5b8 1 2 5d0 5bc 1",
    "2 5d1 5bc 1 2 5d2 5bc 1 2 5d3 5bc 1 2 5d4 5bc 1 2 5d5 5bc 1 2 5d6 5bc 2 2 5d8 5bc 1 2 5d9",
    "5bc 1 2 5da 5bc 1 2 5db 5bc 1 2 5dc 5bc 2 2 5de 5bc 2 2 5e0 5bc 1 2 5e1 5bc 2 2 5e3 5bc 1 2",
    "5e4 5bc 2 2 5e6 5bc 1 2 5e7 5bc 1 2 5e8 5bc 1 2 5e9 5bc 1 2 5ea 5bc 1 2 5d5 5b9 1 2 5d1 5bf",
    "1 2 5db 5bf 1 2 5e4 5bf 1 2 5d0 5dc 8e 2 6c7 674 d 2 626 627 1 2 626 627 1 2 626 6d5 1 2 626",
    "6d5 1 2 626 648 1 2 626 648 1 2 626 6c7 1 2 626 6c7 1 2 626 6c6 1 2 626 6c6 1 2 626 6c8 1 2",
    "626 6c8 1 2 626 6d0 1 2 626 6d0 1 2 626 6d0 1 2 626 649 1 2 626 649 1 2 626 649 5 2 626 62c",
    "1 2 626 62d 1 2 626 645 1 2 626 649 1 2 626 64a 1 2 628 62c 1 2 628 62d 1 2 628 62e 1 2 628",
    "645 1 2 628 649 1 2 628 64a 1 2 62a 62c 1 2 62a 62d 1 2 62a 62e 1 2 62a 645 1 2 62a 649 1 2",
    "62a 64a 1 2 62b 62c 1 2 62b 645 1 2 62b 649 1 2 62b 64a 1 2 62c 62d 1 2 62c 645 1 2 62d 62c",
    "1 2 62d 645 1 2 62e 62c 1 2 62e 62d 1 2 62e 645 1 2 633 62c 1 2 633 62d 1 2 633 62e 1 2 633",
    "645 1 2 635 62d 1 2 635 645 1 2 636 62c 1 2 636 62d 1 2 636 62e 1 2 636 645 1 2 637 62d 1 2",
    "637 645 1 2 638 645 1 2 639 62c 1 2 639 645 1 2 63a 62c 1 2 63a 645 1 2 641 62c 1 2 641 62d",
    "1 2 641 62e 1 2 641 645 1 2 641 649 1 2 641 64a 1 2 642 62d 1 2 642 645 1 2 642 649 1 2 642",
    "64a 1 2 643 627 1 2 643 62c 1 2 643 62d 1 2 643 62e 1 2 643 644 1 2 643 645 1 2 643 649 1 2",
    "643 64a 1 2 644 62c 1 2 644 62d 1 2 644 62e 1 2 644 645 1 2 644 649 1 2 644 64a 1 2 645 62c",
    "1 2 645 62d 1 2 645 62e 1 2 645 645 1 2 645 649 1 2 645 64a 1 2 646 62c 1 2 646 62d 1 2 646",
    "62e 1 2 646 645 1 2 646 649 1 2 646 64a 1 2 647 62c 1 2 647 645 1 2 647 649 1 2 647 64a 1 2",
    "64a 62c 1 2 64a 62d 1 2 64a 62e 1 2 64a 645 1 2 64a 649 1 2 64a 64a 1 2 630 670 1 2 631 670",
    "1 2 649 670 1 3 20 64c 651 1 3 20 64d 651 1 3 20 64e 651 1 3 20 64f 651 1 3 20 650 651 1 3",
    "20 651 670 1 2 626 631 1 2 626 632 1 2 626 645 1 2 626 646 1 2 626 649 1 2 626 64a 1 2 628",
    "631 1 2 628 632 1 2 628 645 1 2 628 646 1 2 628 649 1 2 628 64a 1 2 62a 631 1 2 62a 632 1 2",
    "62a 645 1 2 62a 646 1 2 62a 649 1 2 62a 64a 1 2 62b 631 1 2 62b 632 1 2 62b 645 1 2 62b 646",
    "1 2 62b 649 1 2 62b 64a 1 2 641 649 1 2 641 64a 1 2 642 649 1 2 642 64a 1 2 643 627 1 2 643",
    "644 1 2 643 645 1 2 643 649 1 2 643 64a 1 2 644 645 1 2 644 649 1 2 644 64a 1 2 645 627 1 2",
    "645 645 1 2 646 631 1 2 646 632 1 2 646 645 1 2 646 646 1 2 646 649 1 2 646 64a 1 2 649 670",
    "1 2 64a 631 1 2 64a 632 1 2 64a 645 1 2 64a 646 1 2 64a 649 1 2 64a 64a 1 2 626 62c 1 2 626",
    "62d 1 2 626 62e 1 2 626 645 1 2 626 647 1 2 628 62c 1 2 628 62d 1 2 628 62e 1 2 628 645 1 2",
    "628 647 1 2 62a 62c 1 2 62a 62d 1 2 62a 62e 1 2 62a 645 1 2 62a 647 1 2 62b 645 1 2 62c 62d",
    "1 2 62c 645 1 2 62d 62c 1 2 62d 645 1 2 62e 62c 1 2 62e 645 1 2 633 62c 1 2 633 62d 1 2 633",
    "62e 1 2 633 645 1 2 635 62d 1 2 635 62e 1 2 635 645 1 2 636 62c 1 2 636 62d 1 2 636 62e 1 2",
    "636 645 1 2 637 62d 1 2 638 645 1 2 639 62c 1 2 639 645 1 2 63a 62c 1 2 63a 645 1 2 641 62c",
    "1 2 641 62d 1 2 641 62e 1 2 641 645 1 2 642 62d 1 2 642 645 1 2 643 62c 1 2 643 62d 1 2 643",
    "62e 1 2 643 644 1 2 643 645 1 2 644 62c 1 2 644 62d 1 2 644 62e 1 2 644 645 1 2 644 647 1 2",
    "645 62c 1 2 645 62d 1 2 645 62e 1 2 645 645 1 2 646 62c 1 2 646 62d 1 2 646 62e 1 2 646 645",
    "1 2 646 647 1 2 647 62c 1 2 647 645 1 2 647 670 1 2 64a 62c 1 2 64a 62d 1 2 64a 62e 1 2 64a",
    "645 1 2 64a 647 1 2 626 645 1 2 626 647 1 2 628 645 1 2 628 647 1 2 62a 645 1 2 62a 647 1 2",
    "62b 645 1 2 62b 647 1 2 633 645 1 2 633 647 1 2 634 645 1 2 634 647 1 2 643 644 1 2 643 645",
    "1 2 644 645 1 2 646 645 1 2 646 647 1 2 64a 645 1 2 64a 647 1 3 640 64e 651 1 3 640 64f 651",
    "1 3 640 650 651 1 2 637 649 1 2 637 64a 1 2 639 649 1 2 639 64a 1 2 63a 649 1 2 63a 64a 1 2",
    "633 649 1 2 633 64a 1 2 634 649 1 2 634 64a 1 2 62d 649 1 2 62d 64a 1 2 62c 649 1 2 62c 64a",
    "1 2 62e 649 1 2 62e 64a 1 2 635 649 1 2 635 64a 1 2 636 649 1 2 636 64a 1 2 634 62c 1 2 634",
    "62d 1 2 634 62e 1 2 634 645 1 2 634 631 1 2 633 631 1 2 635 631 1 2 636 631 1 2 637 649 1 2",
    "637 64a 1 2 639 649 1 2 639 64a 1 2 63a 649 1 2 63a 64a 1 2 633 649 1 2 633 64a 1 2 634 649",
    "1 2 634 64a 1 2 62d 649 1 2 62d 64a 1 2 62c 649 1 2 62c 64a 1 2 62e 649 1 2 62e 64a 1 2 635",
    "649 1 2 635 64a 1 2 636 649 1 2 636 64a 1 2 634 62c 1 2 634 62d 1 2 634 62e 1 2 634 645 1 2",
    "634 631 1 2 633 631 1 2 635 631 1 2 636 631 1 2 634 62c 1 2 634 62d 1 2 634 62e 1 2 634 645",
    "1 2 633 647 1 2 634 647 1 2 637 645 1 2 633 62c 1 2 633 62d 1 2 633 62e 1 2 634 62c 1 2 634",
    "62d 1 2 634 62e 1 2 637 645 1 2 638 645 1 2 627 64b 1 2 627 64b 13 3 62a 62c 645 1 3 62a 62d",
    "62c 1 3 62a 62d 62c 1 3 62a 62d 645 1 3 62a 62e 645 1 3 62a 645 62c 1 3 62a 645 62d 1 3 62a",
    "645 62e 1 3 62c 645 62d 1 3 62c 645 62d 1 3 62d 645 64a 1 3 62d 645 649 1 3 633 62d 62c 1 3",
    "633 62c 62d 1 3 633 62c 649 1 3 633 645 62d 1 3 633 645 62d 1 3 633 645 62c 1 3 633 645 645",
    "1 3 633 645 645 1 3 635 62d 62d 1 3 635 62d 62d 1 3 635 645 645 1 3 634 62d 645 1 3 634 62d",
    "645 1 3 634 62c 64a 1 3 634 645 62e 1 3 634 645 62e 1 3 634 645 645 1 3 634 645 645 1 3 636",
    "62d 649 1 3 636 62e 645 1 3 636 62e 645 1 3 637 645 62d 1 3 637 645 62d 1 3 637 645 645 1 3",
    "637 645 64a 1 3 639 62c 645 1 3 639 645 645 1 3 639 645 645 1 3 639 645 649 1 3 63a 645 645",
    "1 3 63a 645 64a 1 3 63a 645 649 1 3 641 62e 645 1 3 641 62e 645 1 3 642 645 62d 1 3 642 645",
    "645 1 3 644 62d 645 1 3 644 62d 64a 1 3 644 62d 649 1 3 644 62c 62c 1 3 644 62c 62c 1 3 644",
    "62e 645 1 3 644 62e 645 1 3 644 645 62d 1 3 644 645 62d 1 3 645 62d 62c 1 3 645 62d 645 1 3",
    "645 62d 64a 1 3 645 62c 62d 1 3 645 62c 645 1 3 645 62e 62c 1 3 645 62e 645 3 3 645 62c 62e",
    "1 3 647 645 62c 1 3 647 645 645 1 3 646 62d 645 1 3 646 62d 649 1 3 646 62c 645 1 3 646 62c",
    "645 1 3 646 62c 649 1 3 646 645 64a 1 3 646 645 649 1 3 64a 645 645 1 3 64a 645 645 1 3 628",
    "62e 64a 1 3 62a 62c 64a 1 3 62a 62c 649 1 3 62a 62e 64a 1 3 62a 62e 649 1 3 62a 645 64a 1 3",
    "62a 645 649 1 3 62c 645 64a 1 3 62c 62d 649 1 3 62c 645 649 1 3 633 62e 649 1 3 635 62d 64a",
    "1 3 634 62d 64a 1 3 636 62d 64a 1 3 644 62c 64a 1 3 644 645 64a 1 3 64a 62d 64a 1 3 64a 62c",
    "64a 1 3 64a 645 64a 1 3 645 645 64a 1 3 642 645 64a 1 3 646 62d 64a 1 3 642 645 62d 1 3 644",
    "62d 645 1 3 639 645 64a 1 3 643 645 64a 1 3 646 62c 62d 1 3 645 62e 64a 1 3 644 62c 645 1 3",
    "643 645 645 1 3 644 62c 645 1 3 646 62c 62d 1 3 62c 62d 64a 1 3 62d 62c 64a 1 3 645 62c 64a",
    "1 3 641 645 64a 1 3 628 62d 64a 1 3 643 645 645 1 3 639 62c 645 1 3 635 645 645 1 3 633 62e",
    "64a 1 3 646 62c 64a 29 3 635 644 6d2 1 3 642 644 6d2 1 4 627 644 644 647 1 4 627 643 628 631",
    "1 4 645 62d 645 62f 1 4 635 644 639 645 1 4 631 633 648 644 1 4 639 644 64a 647 1 4 648 633",
    "644 645 1 3 635 644 649 1 12 635 644 649 20 627 644 644 647 20 639 644 64a 647 20 648 633",
    "644 645 1 8 62c 644 20 62c 644 627 644 647 1 4 631 6cc 627 644 4d 2 20 305 1 2 20 305 1 2 20",
    "305 1 2 20 305 24 2 20 64b 1 2 640 64b 1 2 20 64c 2 2 20 64d 2 2 20 64e 1 2 640 64e 1 2 20",
    "64f 1 2 640 64f 1 2 20 650 1 2 640 650 1 2 20 651 1 2 640 651 1 2 20 652 1 2 640 652 76 2",
    "644 622 1 2 644 622 1 2 644 623 1 2 644 623 1 2 644 625 1 2 644 625 1 2 644 627 1 2 644 627",
    "e7 2 20 304 b140 2 3053 3068 203b 2 1d157 1d165 1 2 1d158 1d165 1 3 1d158 1d165 1d16e 1 3",
    "1d158 1d165 1d16f 1 3 1d158 1d165 1d170 1 3 1d158 1d165 1d171 1 3 1d158 1d165 1d172 57 2",
    "1d1b9 1d165 1 2 1d1ba 1d165 1 3 1d1b9 1d165 1d16e 1 3 1d1ba 1d165 1d16e 1 3 1d1b9 1d165",
    "1d16f 1 3 1d1ba 1d165 1d16f 4e6 2 73 73 1 2 73 73 1a5a 2 30 2c 1 2 31 2c 1 2 32 2c 1 2 33 2c",
    "1 2 34 2c 1 2 35 2c 1 2 36 2c 1 2 37 2c 1 2 38 2c 1 2 39 2c 6 3 28 61 29 1 3 28 62 29 1 3 28",
    "63 29 1 3 28 64 29 1 3 28 65 29 1 3 28 66 29 1 3 28 67 29 1 3 28 68 29 1 3 28 69 29 1 3 28",
    "6a 29 1 3 28 6b 29 1 3 28 6c 29 1 3 28 6d 29 1 3 28 6e 29 1 3 28 6f 29 1 3 28 70 29 1 3 28",
    "71 29 1 3 28 72 29 1 3 28 73 29 1 3 28 74 29 1 3 28 75 29 1 3 28 76 29 1 3 28 77 29 1 3 28",
    "78 29 1 3 28 79 29 1 3 28 7a 29 1 3 3014 73 3015 3 2 63 64 1 2 77 7a 1c 2 68 76 1 2 6d 76 1",
    "2 73 64 1 2 73 73 1 3 70 70 76 1 2 77 63 1b 2 6d 63 1 2 6d 64 1 2 6d 72 24 2 64 6a 70 2 307b",
    "304b 1 2 30b3 30b3 3f 3 3014 672c 3015 1 3 3014 4e09 3015 1 3 3014 4e8c 3015 1 3 3014 5b89",
    "3015 1 3 3014 70b9 3015 1 3 3014 6253 3015 1 3 3014 76d7 3015 1 3 3014 52dd 3015 1 3 3014",
    "6557 3015"]

def expansions : List Expansion := ofGaps expansionNumbers.length 0 expansionNumbers

def map? (c : Char) : Option (List Char) :=
  let n := c.toNat
  if Ranges.contains disallowed n then none
  else if Ranges.contains ignored n then some []
  else
    match Ranges.find? moved n with
    | some r => some [.ofNat (r.value + (n - r.first))]
    | none =>
      match expansions.find? (·.point = n) with
      | some e => some (e.text.map Char.ofNat)
      | none => some [c]

def isStable (c : Char) : Bool := map? c = some [c]

end BearerCheck.Domain.Mapping
