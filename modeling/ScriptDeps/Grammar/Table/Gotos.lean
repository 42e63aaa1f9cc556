namespace ScriptDeps.Grammar

/-! # Where to go behind a nonterminal

A code is a sequence of pairs, lowest first: twelve bits for the nonterminal and twelve for the
state behind it.
-/

/-- The codes by number. -/
def gotoCodes : List Nat :=
  [
    0x0,
    0x3c0f203b0f103a0e80390e30260e10260e00260de0260dd0380dc0330db0330da0330d90330d80370d60330d40360d30330d20300d10300d00330cf0350ce0260cd0260cc02f0cb0260ca02f0c90260c802f0c60260c50330c20340be0330bc0370bb0260ba0370b70260b60330b50320b40310b30300b202d0ac02d0ab02d0aa02d0a902d0a802d0a702d0a602d0a502d0a402d0a302d0a202d0a002d09f02d09e02d09d02d09b02f09902f09802f09702d09603b09502d08e02e08d02d08c02d08702c086,
    0x3c0f203d0f103a0e80390e30260e10260e00260de0260dd0380dc0330db0330da0330d90330d80370d60330d40360d30330d20300d10300d00330cf0350ce0260cd0260cc02f0cb0260ca02f0c90260c802f0c60260c50330c20340be0330bc0370bb0260ba0370b70260b60330b50320b40310b30300b202d0ac02d0ab02d0aa02d0a902d0a802d0a702d0a602d0a502d0a402d0a302d0a202d0a002d09f02d09e02d09d02d09b02f09902f09802f09702d09603d09502d08e02e08d02d08c02d087,
    0x4b0f20390e302f0cb02f0c902f0c602f09902f09802f09704a08c049089048088,
    0x620f80610f70600f205f0f105e0f005e0ef05b0ee05d0ed05d0ec05b0eb03a0e80390e30260e10260e00260de0550dd0380dc0330db0330da0330d90330d805d0d705c0d60330d40360d30330d20300d10300d00330cf0350ce0260cd0260cc02f0cb0260ca02f0c90260c802f0c60260c50330c20340be0330bc05c0bb0260ba05b0b905c0b70260b60330b50320b40310b30300b202d0ac02d0ab02d0aa02d0a902d0a802d0a702d0a602d0a502d0a402d0a302d0a202d0a002d09f02d09e02d09d02d09b02f09902f09802f09702d09605f09502d08e02e08d02d08c02d087,
    0x690dd06809206809106708f,
    0x6b0b2,
    0x6f0d606f0bb06f0b707009a,
    0x6f0d606f0bb06f0b707109a,
    0x6f0d606f0bb06f0b707209a,
    0x7d0f203a0e80390e30260e10260e00260de0260dd0330db0330da0330d90330d80370d60330d40360d30330d20300d10300d00330cf0350ce0260cd0260cc0260ca0260c80260c50330c20340be0330bc0370bb0260ba0370b70260b60330b50320b407c0b30300b202e08d,
    0x7e0b2,
    0x7f0b2,
    0x820a1,
    0x5de0f20900eb08f0ea4ae0e80390e33a00e13a00e03a00de3a00dd08e0dc3a40db3a40da3a40d93a40d808d0d63a40d44ac0d33a40d208c0d108c0d03a40cf3a50ce3a00cd3a00cc3a00ca3a00c83a00c53a40c24ab0be3a40bc08d0bb3a00ba08b0b808d0b73a00b63a40b53a30b408a0b33a20b24a908d,
    0x910b2,
    0x6dc0f203a0e80390e30260e10260e00260de0260dd0380dc0330db0330da0330d90330d80370d60330d40360d30330d20300d10300d00330cf0350ce0260cd0260cc02f0cb0260ca02f0c90260c802f0c60260c50330c20340be0330bc0370bb0260ba0370b70260b60330b50320b40310b30300b202d0ac02d0ab02d0aa02d0a902d0a802d0a702d0a602d0a502d0a402d0a302d0a202d0a002d09f02d09e02d09d02d09b02f09902f09802f09702d09609209502d08e02e08d02d08c02d087,
    0x9409b,
    0x7d0f203a0e80390e30260e10260e00260de0260dd09c0dc0330db0330da0330d90330d80370d60330d40360d30330d20300d10300d00330cf0350ce0260cd0260cc0260ca0260c80260c50330c20340be0330bc0370bb0260ba0370b70260b60330b50320b409b0b30300b202e08d,
    0x7d0f203a0e80390e30260e10260e00260de0260dd09e0dc0330db0330da0330d90330d80370d60330d40360d30330d20300d10300d00330cf0350ce0260cd0260cc0260ca0260c80260c50330c20340be0330bc0370bb0260ba0370b70260b60330b50320b409d0b30300b202e08d,
    0x7d0f203a0e80390e30260e10260e00260de0260dd0330db0330da0330d90330d80370d60330d40360d30330d20300d10300d00330cf0350ce0260cd0260cc0260ca0260c80260c50330c20340be0330bc0370bb0260ba0370b70260b60330b50320b40a00b30300b202e08d,
    0xa80fa0a70f95de0f20900eb0a60ea4ae0e80390e33a00e13a00e03a00de3a00dd3a40db3a40da3a40d93a40d80a50d708d0d63a40d44ac0d33a40d208c0d108c0d03a40cf3a50ce3a00cd3a00cc3a00ca3a00c83a00c53a40c24ab0be3a40bc08d0bb3a00ba0a40b808d0b73a00b63a40b53a30b40a30b33a20b24a908d,
    0xad0c00ac0bf,
    0xaf100,
    0xb0101,
    0xb50e60b40c7,
    0xba0e8,
    0xbd0e8,
    0x7d0f203a0e80390e30260e10260e00260de0260dd3a40db3a40da3a40d93a40d84ad0d63a40d46810d33a40d24aa0d14aa0d03a40cf0c10ce0260cd0260cc0260ca0260c80260c53a40c24ab0be3a40bc4ad0bb0260ba4ad0b70260b63a40b50c00b40bf0b34aa0b202e08d,
    0x7d0f203a0e80390e30260e10260e00260de0260dd0330db0330da0330d90330d80370d60330d40360d30330d20300d10300d00330cf0350ce0260cd0260cc0260ca0260c80260c50330c20340be0330bc0370bb0260ba0370b70260b60330b50320b40c20b30300b202e08d,
    0x7d0f203a0e80390e30260e10260e00260de0260dd0330db0330da0330d90330d80370d60330d40360d30330d20300d10300d00330cf0350ce0260cd0260cc0260ca0260c80260c50330c20340be0330bc0370bb0260ba0370b70260b60330b50320b40c40b30300b202e08d,
    0xc71020c70df,
    0xcc0e50cb0e4,
    0xd00e2,
    0xe20ff0d00e2,
    0xe40de,
    0xe80fb0e80c20e70c15780be0e80bd0e80bc,
    0x3c0f20eb0f103a0e80390e30260e10260e00260de0260dd0380dc0330db0330da0330d90330d80370d60330d40360d30330d20300d10300d00330cf0350ce0260cd0260cc02f0cb0260ca02f0c90260c802f0c60260c50330c20340be0330bc0370bb0260ba0370b70260b60330b50320b40310b30300b202d0ac02d0ab02d0aa02d0a902d0a802d0a702d0a602d0a502d0a402d0a302d0a202d0a002d09f02d09e02d09d02d09b02f09902f09802f09702d0960eb09502d08e02e08d02d08c02d087,
    0xee0f20390e3,
    0xf1090,
    0xf70f203a0e80390e30260e10260e00260de0260dd0330db0330da0330d90330d80370d60330d40360d30330d20300d10300d00330cf0350ce0260cd0260cc02f0cb0260ca02f0c90260c802f0c60260c50330c20340be0330bc0370bb0260ba0370b70260b60330b50320b40f60b30300b202f09902f09802f09702e08d0f508c,
    0xfb0dd0fb08b0fa08a,
    0x3c0f203a0e80390e30260e10260e00260de0260dd0380dc0330db0330da0330d90330d80370d60330d40360d30330d20300d10300d00330cf0350ce0260cd0260cc02f0cb0260ca02f0c90260c802f0c60260c50330c20340be0330bc0370bb0260ba0370b70260b60330b50320b40310b30300b202d0ac02d0ab02d0aa02d0a902d0a802d0a702d0a602d0a502d0a402d0a302d0a202d0a002d09f02d09e02d09d02d09b02f09902f09802f09702d0960fc09502d08e02e08d02d08c02d087,
    0x7d0f203a0e80390e30260e10260e00260de0260dd0330db0330da0330d90330d80370d60330d40360d30330d20300d10300d00330cf0350ce0260cd0260cc0260ca0260c80260c50330c20340be0330bc0370bb0260ba0370b70260b60330b50320b40fd0b30300b202e08d,
    0x7d0f203a0e80390e30260e10260e00260de0260dd0330db0330da0330d90330d80370d60330d40360d30330d20300d10300d00330cf0350ce0260cd0260cc0260ca0260c80260c50330c20340be0330bc0370bb0260ba0370b70260b60330b50320b41030b30300b210209b02e08d,
    0x1090f81080f704b0f20390e302f0cb02f0c902f0c602f09902f09802f09704a08c049089048088,
    0x10c0f010c0ef10c0dd,
    0x1150f205e0f005e0ef1120ee1140ed1140ec1120eb0390e305e0dd1140d71130d61130bb1120b91130b7,
    0x1090f81080f706f0d606f0bb06f0b707109a,
    0x1090f81080f707d0f203a0e80390e30260e10260e00260de0260dd0330db0330da0330d90330d80370d60330d40360d30330d20300d10300d00330cf0350ce0260cd0260cc0260ca0260c80260c50330c20340be0330bc0370bb0260ba0370b70260b60330b50320b407c0b30300b202e08d,
    0xa80fa0a70f95de0f20900eb0a60ea4ae0e80390e33a00e13a00e03a00de3a00dd3a40db3a40da3a40d93a40d80a50d708d0d63a40d44ac0d33a40d208c0d108c0d03a40cf3a50ce3a00cd3a00cc3a00ca3a00c83a00c53a40c24ab0be3a40bc08d0bb3a00ba0a40b808d0b73a00b63a40b53a30b41170b33a20b24a908d,
    0x1090f81080f710c0f010c0ef0ba0e810c0dd,
    0x5de0f24ae0e80390e33a00e13a00e03a00de3a00dd3a40db3a40da3a40d93a40d81230d63a40d44ac0d33a40d21220d11220d03a40cf3a50ce3a00cd3a00cc3a00ca3a00c83a00c53a40c24ab0be3a40bc1230bb3a00ba1230b73a00b63a40b53a30b41210b33a20b24a908d,
    0x1090f81080f7,
    0x1090f81080f710c0f010c0ef10c0dd,
    0x1290f8,
    0x12d0f7,
    0x12f0e8,
    0xee0f21380f01380ef0390e31380dd,
    0x1390f7,
    0x13a0f8,
    0x13f0dd14009313f08b,
    0x143090,
    0x146094,
    0x5de0f24ae0e80390e33a00e13a00e03a00de3a00dd4c70dc3a40db3a40da3a40d93a40d86820d63a40d44ac0d33a40d23a20d13a20d03a40cf3a50ce3a00cd3a00cc3a00ca3a00c83a00c53a40c24ab0be3a40bc6820bb3a00ba6820b73a00b63a40b53a30b44c60b33a20b24a908d,
    0x3c0f203a0e80390e30260e10260e00260de0260dd0380dc0330db0330da0330d90330d80370d60330d40360d30330d20300d10300d00330cf0350ce0260cd0260cc02f0cb0260ca02f0c90260c802f0c60260c50330c20340be0330bc0370bb0260ba0370b70260b60330b50320b40310b30300b202d0ac02d0ab02d0aa02d0a902d0a802d0a702d0a602d0a502d0a402d0a302d0a202d0a002d09f02d09e02d09d02d09b02f09902f09802f09702d09614709502d08e02e08d02d08c02d087,
    0x4bb0f814a0f014a0ef4b70ee4b70eb14a0dd1130d61130bb4b70b91130b7,
    0x14c0d5,
    0x4cf0fa5de0f20900eb4cd0ea6830e80390e33a00e13a00e03a00de3a00dd3a40db3a40da3a40d93a40d86e00d63a40d46810d33a40d23b30d13b30d03a40cf3a50ce3a00cd3a00cc3a00ca3a00c83a00c53a40c24ab0be3a40bc6e00bb3a00ba4cb0b86e00b73a00b63a40b53a30b44de0b370e0b24a908d,
    0x14f0d5,
    0x1520f5,
    0x1540f5,
    0x1560f5,
    0x620f80610f71150f205e0f005e0ef05b0ee05d0ed05d0ec05b0eb0390e305e0dd05d0d71130d61130bb05b0b91130b7,
    0x6f0d606f0bb06f0b715c09a,
    0x3c0f203a0e80390e30260e10260e00260de0260dd0380dc0330db0330da0330d90330d80370d60330d40360d30330d20300d10300d00330cf0350ce0260cd0260cc02f0cb0260ca02f0c90260c802f0c60260c50330c20340be0330bc0370bb0260ba0370b70260b60330b50320b40310b30300b202d0ac02d0ab02d0aa02d0a902d0a802d0a702d0a602d0a502d0a402d0a302d0a202d0a002d09f02d09e02d09d02d09b02f09902f09802f09702d09616209502d08e02e08d02d08c02d087,
    0x1640ad,
    0x1660a1,
    0x5de0f24ae0e80390e33a00e13a00e03a00de3a00dd1740dc3a40db3a40da3a40d93a40d81730d63a40d44ac0d33a40d21710d11710d03a40cf3a50ce3a00cd3a00cc3a00ca3a00c83a00c53a40c24ab0be3a40bc1730bb3a00ba1730b73a00b63a40b53a30b41720b31710b21700ab1700981700974a908d,
    0x3c0f203a0e80390e30260e10260e00260de0260dd0380dc0330db0330da0330d90330d80370d60330d40360d30330d20300d10300d00330cf0350ce0260cd0260cc02f0cb0260ca02f0c90260c802f0c60260c50330c20340be0330bc0370bb0260ba0370b70260b60330b50320b40310b30300b202d0ac02d0ab02d0aa02d0a902d0a802d0a702d0a602d0a502d0a402d0a302d0a202d0a002d09f02d09e02d09d02d09b02f09902f09802f09702d09617509502d08e02e08d02d08c02d087,
    0x5de0f24ae0e80390e33a00e13a00e03a00de3a00dd3a40db3a40da3a40d93a40d86820d63a40d44ac0d33a40d23a20d13a20d03a40cf3a50ce3a00cd3a00cc3a00ca3a00c83a00c53a40c24ab0be3a40bc6820bb3a00ba6820b73a00b63a40b53a30b43ad0b33a20b24a908d,
    0x4db0e8,
    0x5de0f26830e80390e33a00e13a00e03a00de3a00dd3a40db3a40da3a40d93a40d86ea0d63a40d46810d33a40d23df0d13df0d03a40cf3a50ce3a00cd3a00cc3a00ca3a00c83a00c53a40c24ab0be3a40bc6ea0bb3a00ba6ea0b73a00b63a40b53a30b44de0b370e0b24a908d,
    0x3cf0ff3c10e2,
    0x179104,
    0x3c0f203a0e80390e30260e10260e00260de0260dd0380dc0330db0330da0330d90330d80370d60330d40360d30330d20300d10300d00330cf0350ce0260cd0260cc02f0cb0260ca02f0c90260c802f0c60260c50330c20340be0330bc0370bb0260ba0370b70260b60330b50320b40310b30300b202d0ac02d0ab02d0aa02d0a902d0a802d0a702d0a602d0a502d0a402d0a302d0a202d0a002d09f02d09e02d09d02d09b02f09902f09802f09702d09617b09502d08e02e08d02d08c02d087,
    0x3c0f205f0f103a0e80390e30260e10260e00260de0260dd0380dc0330db0330da0330d90330d80370d60330d40360d30330d20300d10300d00330cf0350ce0260cd0260cc02f0cb0260ca02f0c90260c802f0c60260c50330c20340be0330bc0370bb0260ba0370b70260b60330b50320b40310b30300b202d0ac02d0ab02d0aa02d0a902d0a802d0a702d0a602d0a502d0a402d0a302d0a202d0a002d09f02d09e02d09d02d09b02f09902f09802f09702d09605f09502d08e02e08d02d08c02d087,
    0x1810b11800b0,
    0x7d0f203a0e80390e30260e10260e00260de0260dd0330db0330da0330d90330d80370d60330d40360d30330d20300d10300d00330cf0350ce0260cd0260cc0260ca0260c80260c50330c20340be0330bc0370bb0260ba0370b70260b60330b50320b41860b30300b202e08d,
    0x5de0f20900eb18a0ea4ae0e80390e33a00e13a00e03a00de3a00dd3a40db3a40da3a40d93a40d81890d708d0d63a40d44ac0d33a40d208c0d108c0d03a40cf3a50ce3a00cd3a00cc3a00ca3a00c83a00c53a40c24ab0be3a40bc08d0bb3a00ba1880b808d0b73a00b63a40b53a30b41870b33a20b24a908d,
    0x18d0f93c10e2,
    0x18f0fa,
    0x18d0f9,
    0x1900f9,
    0x1910fa,
    0x1980fc1960c31970c01960bd,
    0x19b100,
    0x19c101,
    0x1a61031a50f21a40f01a40ef1a30ec1a20e91a10e70390e31a40dd,
    0x5de0f257b0e80390e33a00e13a00e03a00de3a00dd3a40db3a40da3a40d93a40d857a0d63a40d45790d33a40d26490d16490d03a40cf3a50ce3a00cd3a00cc3a00ca3a00c83a00c53a40c24ab0be3a40bc57a0bb3a00ba57a0b73a00b63a40b53a30b41a70b36490b24a908d,
    0x1a90e61a80c7,
    0x1aa0e6,
    0x5de0f20900eb08f0ea6830e80390e33a00e13a00e03a00de3a00dd3a40db3a40da3a40d93a40d86e00d63a40d46810d33a40d23b30d13b30d03a40cf3a50ce3a00cd3a00cc3a00ca3a00c83a00c53a40c24ab0be3a40bc6e00bb3a00ba08b0b86e00b73a00b63a40b53a30b44de0b370e0b24a908d,
    0x1ae0e8,
    0x1b20e8,
    0x1b30e8,
    0x1b409b,
    0x1b50e20e40de,
    0x5de0f24ae0e80390e33a00e13a00e03a00de3a00dd1b80dc3a40db3a40da3a40d93a40d86820d63a40d44ac0d33a40d23a20d13a20d03a40cf3a50ce3a00cd3a00cc3a00ca3a00c83a00c53a40c24ab0be3a40bc6820bb3a00ba6820b73a00b63a40b53a30b41b70b33a20b24a908d,
    0x1ba1021ba0df,
    0x7d0f203a0e80390e30260e10260e00260de0260dd0330db0330da0330d90330d80370d60330d40360d30330d20300d10300d00330cf0350ce0260cd0260cc0260ca0260c80260c50330c20340be0330bc0370bb0260ba0370b70260b60330b50320b41bb0b30300b202e08d,
    0x7d0f203a0e80390e30260e10260e00260de0260dd0330db0330da0330d90330d80370d60330d40360d30330d20300d10300d00330cf0350ce0260cd0260cc0260ca0260c80260c50330c20340be0330bc0370bb0260ba0370b70260b60330b50320b41bd0b30300b21bc09b02e08d,
    0x7d0f203a0e80390e30260e10260e00260de0260dd0330db0330da0330d90330d80370d60330d40360d30330d20300d10300d00330cf0350ce0260cd0260cc0260ca0260c80260c50330c20340be0330bc0370bb0260ba0370b70260b60330b50320b41be0b30300b202e08d,
    0x1c00e2,
    0x1c50f95de0f24ae0e80390e33a00e13a00e03a00de3a00dd3a40db3a40da3a40d93a40d81c40d76820d63a40d44ac0d33a40d23a20d13a20d03a40cf3a50ce3a00cd3a00cc3a00ca3a00c83a00c53a40c24ab0be3a40bc6820bb3a00ba6820b73a00b63a40b53a30b41c30b33a20b24a908d,
    0x5de0f26830e80390e33a00e13a00e03a00de3a00dd3a40db3a40da3a40d93a40d84ad0d63a40d46810d33a40d270e0d170e0d03a40cf3a50ce3a00cd3a00cc3a00ca3a00c83a00c53a40c24ab0be3a40bc4ad0bb3a00ba4ad0b73a00b63a40b53a30b41ca0b370e0b24a908d,
    0x7d0f203a0e80390e30260e10260e00260de0260dd0330db0330da0330d90330d80370d60330d40360d30330d20300d10300d00330cf0350ce0260cd0260cc0260ca0260c80260c50330c20340be0330bc0370bb0260ba0370b70260b60330b50320b41cb0b30300b202e08d,
    0x7d0f203a0e80390e30260e10260e00260de0260dd0330db0330da0330d90330d80370d60330d40360d30330d20300d10300d00330cf0350ce0260cd0260cc0260ca0260c80260c50330c20340be0330bc0370bb0260ba0370b70260b60330b50320b41cc0b30300b202e08d,
    0x5de0f24ae0e80390e33a00e13a00e03a00de3a00dd1ce0dc3a40db3a40da3a40d93a40d86820d63a40d44ac0d33a40d23a20d13a20d03a40cf3a50ce3a00cd3a00cc3a00ca3a00c83a00c53a40c24ab0be3a40bc6820bb3a00ba6820b73a00b63a40b53a30b41cd0b33a20b24a908d,
    0x7d0f203a0e80390e30260e10260e00260de0260dd0330db0330da0330d90330d80370d60330d40360d30330d20300d10300d00330cf0350ce0260cd0260cc0260ca0260c80260c50330c20340be0330bc0370bb0260ba0370b70260b60330b50320b41d00b30300b202e08d,
    0x7d0f203a0e80390e30260e10260e00260de0260dd0330db0330da0330d90330d80370d60330d40360d30330d20300d10300d00330cf0350ce0260cd0260cc0260ca0260c80260c50330c20340be0330bc0370bb0260ba0370b70260b60330b50320b41d10b30300b202e08d,
    0x7d0f203a0e80390e30260e10260e00260de0260dd0330db0330da0330d90330d80370d60330d40360d30330d20300d10300d00330cf0350ce0260cd0260cc0260ca0260c80260c50330c20340be0330bc0370bb0260ba0370b70260b60330b50320b41d20b30300b202e08d,
    0x7d0f203a0e80390e30260e10260e00260de0260dd0330db0330da0330d90330d80370d60330d40360d30330d20300d10300d00330cf0350ce0260cd0260cc0260ca0260c80260c50330c20340be0330bc0370bb0260ba0370b70260b60330b50320b41d30b30300b202e08d,
    0x7d0f203a0e80390e30260e10260e00260de0260dd0330db0330da0330d90330d80370d60330d40360d30330d20300d10300d00330cf0350ce0260cd0260cc0260ca0260c80260c50330c20340be0330bc0370bb0260ba0370b70260b60330b50320b41d40b30300b202e08d,
    0x7d0f203a0e80390e30260e10260e00260de0260dd0330db0330da0330d90330d80370d60330d40360d30330d20300d10300d00330cf0350ce0260cd0260cc0260ca0260c80260c50330c20340be0330bc0370bb0260ba0370b70260b60330b50320b41d50b30300b202e08d,
    0x7d0f203a0e80390e30260e10260e00260de0260dd0330db0330da0330d90330d80370d60330d40360d30330d20300d10300d00330cf0350ce0260cd0260cc0260ca0260c80260c50330c20340be0330bc0370bb0260ba0370b70260b60330b50320b41d60b30300b202e08d,
    0x7d0f203a0e80390e30260e10260e00260de0260dd0330db0330da0330d90330d80370d60330d40360d30330d20300d10300d00330cf0350ce0260cd0260cc0260ca0260c80260c50330c20340be0330bc0370bb0260ba0370b70260b60330b50320b41d70b30300b202e08d,
    0x7d0f203a0e80390e30260e10260e00260de0260dd0330db0330da0330d90330d80370d60330d40360d30330d20300d10300d00330cf0350ce0260cd0260cc0260ca0260c80260c50330c20340be0330bc0370bb0260ba0370b70260b60330b50320b41d80b30300b202e08d,
    0x7d0f203a0e80390e30260e10260e00260de0260dd0330db0330da0330d90330d80370d60330d40360d30330d20300d10300d00330cf0350ce0260cd0260cc0260ca0260c80260c50330c20340be0330bc0370bb0260ba0370b70260b60330b50320b41d90b30300b202e08d,
    0x1da0ff,
    0x1db0e2,
    0x5de0f24ae0e80390e33a00e13a00e03a00de3a00dd1de0dc3a40db3a40da3a40d93a40d81de0d76820d63a40d44ac0d33a40d23a20d13a20d03a40cf3a50ce3a00cd3a00cc3a00ca3a00c83a00c53a40c24ab0be3a40bc6820bb3a00ba6820b73a00b63a40b53a30b41dd0b33a20b24a908d,
    0x1e30c01e20bf,
    0x1e50fb1e50c21e40c15780be1e50bd1e50bc,
    0x7d0f203a0e80390e30260e10260e00260de0260dd0330db0330da0330d90330d80370d60330d40360d30330d20300d10300d00330cf0350ce0260cd0260cc0260ca0260c80260c50330c20340be0330bc0370bb0260ba0370b70260b60330b50320b41e60b30300b202e08d,
    0x7d0f203a0e80390e30260e10260e00260de0260dd0330db0330da0330d90330d80370d60330d40360d30330d20300d10300d00330cf0350ce0260cd0260cc0260ca0260c80260c50330c20340be0330bc0370bb0260ba0370b70260b60330b50320b41e80b30300b21e709b02e08d,
    0x4b0f20390e302f0cb02f0c902f0c602f09902f09802f0971ea08c,
    0x1ed0e61ec0c7,
    0x1ee0dd1ee08b,
    0x1ef0dd,
    0x1f50f3,
    0x1f80e61f70c7,
    0x1fc0e8,
    0x7d0f203a0e80390e30260e10260e00260de0260dd0330db0330da0330d90330d80370d60330d40360d30330d20300d10300d00330cf0350ce0260cd0260cc0260ca0260c80260c50330c20340be0330bc0370bb0260ba0370b70260b60330b50320b41fe0b30300b202e08d,
    0x5de0f24ae0e80390e33a00e13a00e03a00de3a00dd3a40db3a40da3a40d93a40d86820d63a40d44ac0d33a40d23a20d13a20d03a40cf3a50ce3a00cd3a00cc3a00ca3a00c83a00c53a40c24ab0be3a40bc6820bb3a00ba6820b73a00b63a40b53a30b42010b33a20b24a908d,
    0x2020e8,
    0xa80fa5de0f20900eb0a60ea4ae0e80390e33a00e13a00e03a00de3a00dd3a40db3a40da3a40d93a40d808d0d63a40d44ac0d33a40d245a0d145a0d03a40cf3a50ce3a00cd3a00cc3a00ca3a00c83a00c53a40c24ab0be3a40bc08d0bb3a00ba0a40b808d0b73a00b63a40b53a30b42010b33a20b24a908d,
    0x2060f02060ef2060dd,
    0x3c10e2,
    0x7d0f203a0e80390e30260e10260e00260de0260dd0330db0330da0330d90330d80370d60330d40360d30330d20300d10300d00330cf0350ce0260cd0260cc0260ca0260c80260c50330c20340be0330bc0370bb0260ba0370b70260b60330b50320b42070b30300b202e08d,
    0x14a0f014a0ef1120ee1120eb14a0dd1130d61130bb1120b91130b7,
    0x7d0f203a0e80390e30260e10260e00260de0260dd0330db0330da0330d90330d80370d60330d40360d30330d20300d10300d00330cf0350ce0260cd0260cc0260ca0260c80260c50330c20340be0330bc0370bb0260ba0370b70260b60330b50320b420c0b30300b202e08d,
    0x1150f22110f02110ef1140ed1140ec0390e32110dd1140d7,
    0x5de0f20900eb2150ea4ae0e80390e33a00e13a00e03a00de3a00dd3a40db3a40da3a40d93a40d808d0d63a40d44ac0d33a40d208c0d108c0d03a40cf3a50ce3a00cd3a00cc3a00ca3a00c83a00c53a40c24ab0be3a40bc08d0bb3a00ba2140b808d0b73a00b63a40b53a30b42130b33a20b24a908d,
    0x21609b,
    0x2180f02180ef2180dd,
    0x21c0f021c0ef21c0dd,
    0x2210f02210ef2210dd,
    0x2260f02260ef2260dd,
    0x2270f02270ef2270dd,
    0x2280f02280ef2280dd,
    0x2290e8,
    0x22e0f4,
    0x22f09222f091,
    0x232094,
    0x2340b6,
    0x4ea0f8,
    0x7d0f203a0e80390e30260e10260e00260de0260dd0330db0330da0330d90330d80370d60330d40360d30330d20300d10300d00330cf0350ce0260cd0260cc0260ca0260c80260c50330c20340be0330bc0370bb0260ba0370b70260b60330b50320b42380b30300b202e08d,
    0x5de0f20900eb18a0ea6830e80390e33a00e13a00e03a00de3a00dd3a40db3a40da3a40d93a40d86e00d63a40d46810d33a40d23b30d13b30d03a40cf3a50ce3a00cd3a00cc3a00ca3a00c83a00c53a40c24ab0be3a40bc6e00bb3a00ba1880b86e00b73a00b63a40b53a30b44de0b370e0b24a908d,
    0x6f0d606f0bb06f0b723909a,
    0x23b0f5,
    0x23f0f5,
    0x2410e62400c7,
    0x2450e8,
    0x24809c,
    0x24c0f624c0af24c0ae,
    0x5de0f26830e80390e33a00e13a00e03a00de3a00dd3a40db3a40da3a40d93a40d86f50d63a40d46810d33a40d26f40d16f40d03a40cf3a50ce3a00cd3a00cc3a00ca3a00c83a00c53a40c24ab0be3a40bc6f50bb3a00ba6f50b73a00b63a40b53a30b44de0b36f40b24a908d,
    0x3c0f203a0e80390e30260e10260e00260de0260dd0380dc0330db0330da0330d90330d80370d60330d40360d30330d20300d10300d00330cf0350ce0260cd0260cc02f0cb0260ca02f0c90260c802f0c60260c50330c20340be0330bc0370bb0260ba0370b70260b60330b50320b40310b30300b202d0ac02d0ab02d0aa02d0a902d0a802d0a702d0a602d0a502d0a402d0a302d0a202d0a002d09f02d09e02d09d02d09b02f09902f09802f09702d09624f09502d08e02e08d02d08c02d087,
    0x2510d62510bb2510b707009a,
    0x2530d62530bb2530b707109a,
    0x2560d62560bb2560b7,
    0x5de0f24ae0e80390e33a00e13a00e03a00de3a00dd25b0dc3a40db3a40da3a40d93a40d86820d63a40d44ac0d33a40d23a20d13a20d03a40cf3a50ce3a00cd3a00cc3a00ca3a00c83a00c53a40c24ab0be3a40bc6820bb3a00ba6820b73a00b63a40b53a30b425a0b33a20b22590ab4a908d,
    0x5de0f20900eb25f0ea6830e80390e33a00e13a00e03a00de3a00dd3a40db3a40da3a40d93a40d86e00d63a40d46810d33a40d23b30d13b30d03a40cf3a50ce3a00cd3a00cc3a00ca3a00c83a00c53a40c24ab0be3a40bc6e00bb3a00ba25e0b86e00b73a00b63a40b53a30b44de0b370e0b24a908d,
    0x261104,
    0x5de0f24ae0e80390e33a00e13a00e03a00de3a00dd3a40db3a40da3a40d93a40d86820d63a40d44ac0d33a40d23a20d13a20d03a40cf3a50ce3a00cd3a00cc3a00ca3a00c83a00c53a40c24ab0be3a40bc6820bb3a00ba6820b73a00b63a40b53a30b42620b33a20b24a908d,
    0x2630b2,
    0x26509b,
    0x26609b,
    0x2670b1,
    0x5de0f24ae0e80390e33a00e13a00e03a00de3a00dd3a40db3a40da3a40d93a40d81890d76820d63a40d44ac0d33a40d23a20d13a20d03a40cf3a50ce3a00cd3a00cc3a00ca3a00c83a00c53a40c24ab0be3a40bc6820bb3a00ba6820b73a00b63a40b53a30b41870b33a20b24a908d,
    0x26f0fc1960c31970c01960bd,
    0x5f90f05f90ef5f90dd,
    0x2720f02720ef2720dd27109b,
    0x4ed0e82740d5,
    0xee0f22760f02760ef0390e32760dd,
    0x2781031a50f21a40f01a40ef1a30ec1a20e91a10e70390e31a40dd,
    0x2790e6,
    0x7d0f203a0e80390e30260e10260e00260de0260dd0330db0330da0330d90330d80370d60330d40360d30330d20300d10300d00330cf0350ce0260cd0260cc0260ca0260c80260c50330c20340be0330bc0370bb0260ba0370b70260b60330b50320b427c0b30300b227b09b02e08d,
    0x27e0e8,
    0x27f0e8,
    0x28009b,
    0x7d0f203a0e80390e30260e10260e00260de0260dd0330db0330da0330d90330d80370d60330d40360d30330d20300d10300d00330cf0350ce0260cd0260cc0260ca0260c80260c50330c20340be0330bc0370bb0260ba0370b70260b60330b50320b42820b30300b228109b02e08d,
    0x7d0f203a0e80390e30260e10260e00260de0260dd0330db0330da0330d90330d80370d60330d40360d30330d20300d10300d00330cf0350ce0260cd0260cc0260ca0260c80260c50330c20340be0330bc0370bb0260ba0370b70260b60330b50320b42840b30300b228309b02e08d,
    0x2850e8,
    0x28609b,
    0x28709b,
    0x5de0f24ae0e80390e33a00e13a00e03a00de3a00dd3a40db3a40da3a40d93a40d86820d63a40d44ac0d33a40d23a20d13a20d03a40cf3a50ce3a00cd3a00cc3a00ca3a00c83a00c53a40c24ab0be3a40bc6820bb3a00ba6820b73a00b63a40b53a30b41210b33a20b24a908d,
    0x28c0f93c10e2,
    0x28c0f9,
    0x5de0f24ae0e80390e33a00e13a00e03a00de3a00dd2900dc3a40db3a40da3a40d93a40d86820d63a40d44ac0d33a40d23a20d13a20d03a40cf3a50ce3a00cd3a00cc3a00ca3a00c83a00c53a40c24ab0be3a40bc6820bb3a00ba6820b73a00b63a40b53a30b428f0b33a20b24a908d,
    0x1e50fb1e50c25780be1e50bd1e50bc,
    0xf70f203a0e80390e30260e10260e00260de0260dd0330db0330da0330d90330d80370d60330d40360d30330d20300d10300d00330cf0350ce0260cd0260cc02f0cb0260ca02f0c90260c802f0c60260c50330c20340be0330bc0370bb0260ba0370b70260b60330b50320b42940b30300b202f09902f09802f09702e08d29308c,
    0x2960e62950c7,
    0x2970e6,
    0xfb0dd0fb08b29908a,
    0x29b0f3,
    0x29c0dd29c08b,
    0x29d0e6,
    0x29f0e8,
    0x2a00e8,
    0x2a109b,
    0x2a30e62a20c7,
    0x2a509b,
    0x5de0f24ae0e80390e33a00e13a00e03a00de3a00dd3a40db3a40da3a40d93a40d86820d63a40d44ac0d33a40d23a20d13a20d03a40cf3a50ce3a00cd3a00cc3a00ca3a00c83a00c53a40c24ab0be3a40bc6820bb3a00ba6820b73a00b63a40b53a30b42a60b33a20b24a908d,
    0x5de0f24ae0e80390e33a00e13a00e03a00de3a00dd3a40db3a40da3a40d93a40d86820d63a40d44ac0d33a40d23a20d13a20d03a40cf3a50ce3a00cd3a00cc3a00ca3a00c83a00c53a40c24ab0be3a40bc6820bb3a00ba6820b73a00b63a40b53a30b42a70b33a20b24a908d,
    0x2a80e8,
    0x2a90f02a90ef2a90dd,
    0x2ab0e8,
    0x2ac0f02ac0ef2ac0dd,
    0x2ad0f02ad0ef2ad0dd,
    0x2ae0f02ae0ef2ae0dd,
    0x2af0e8,
    0x2b00f02b00ef2b00dd,
    0x2b40f02b40ef2b40dd,
    0x2b50f02b50ef2b50dd,
    0x2b60f02b60ef2b60dd,
    0x2b70e8,
    0x2b80f02b80ef2b80dd,
    0x2bc0f02bc0ef2bc0dd,
    0x2bd0f02bd0ef2bd0dd,
    0x2be0f02be0ef2be0dd,
    0x2bf0e8,
    0x2c00e8,
    0x2c10e8,
    0x2c209b,
    0x13f0dd2c509313f08b,
    0x2c70f4,
    0x5850f71150f22110f02110ef5830ed5830ec0390e32110dd5830d7,
    0x5de0f20900eb2150ea6830e80390e33a00e13a00e03a00de3a00dd3a40db3a40da3a40d93a40d86e00d63a40d46810d33a40d23b30d13b30d03a40cf3a50ce3a00cd3a00cc3a00ca3a00c83a00c53a40c24ab0be3a40bc6e00bb3a00ba2140b86e00b73a00b63a40b53a30b44de0b370e0b24a908d,
    0x2d00e6,
    0x2d20e8,
    0x2d30e8,
    0x2d409b,
    0x2d60e62d50c7,
    0x3c0f203a0e80390e30260e10260e00260de0260dd0380dc0330db0330da0330d90330d80370d60330d40360d30330d20300d10300d00330cf0350ce0260cd0260cc02f0cb0260ca02f0c90260c802f0c60260c50330c20340be0330bc0370bb0260ba0370b70260b60330b50320b40310b30300b202d0ac02d0ab02d0aa02d0a902d0a802d0a702d0a602d0a502d0a402d0a302d0a202d0a002d09f02d09e02d09d02d09b02f09902f09802f09702d0962d709502d08e02e08d02d08c02d087,
    0x5de0f24ae0e80390e33a00e13a00e03a00de3a00dd2da0dc3a40db3a40da3a40d93a40d86820d63a40d44ac0d33a40d23a20d13a20d03a40cf3a50ce3a00cd3a00cc3a00ca3a00c83a00c53a40c24ab0be3a40bc6820bb3a00ba6820b73a00b63a40b53a30b42d90b33a20b24a908d,
    0x2dc0f62dc0af2dc0ae,
    0x2dd0d62dd0bb2dd0b7,
    0x5de0f24ae0e80390e33a00e13a00e03a00de3a00dd2e00dc3a40db3a40da3a40d93a40d86820d63a40d44ac0d33a40d23a20d13a20d03a40cf3a50ce3a00cd3a00cc3a00ca3a00c83a00c53a40c24ab0be3a40bc6820bb3a00ba6820b73a00b63a40b53a30b42df0b33a20b24a908d,
    0x2e20d5,
    0x5de0f24ae0e80390e33a00e13a00e03a00de3a00dd2e00dc3a40db3a40da3a40d93a40d86820d614c0d53a40d44ac0d33a40d23a20d13a20d03a40cf3a50ce3a00cd3a00cc3a00ca3a00c83a00c53a40c24ab0be3a40bc6820bb3a00ba6820b73a00b63a40b53a30b42df0b33a20b24a908d,
    0x2e70d62e70bb2e70b7,
    0x5de0f24ae0e80390e33a00e13a00e03a00de3a00dd2e90dc3a40db3a40da3a40d93a40d86820d63a40d44ac0d33a40d23a20d13a20d03a40cf3a50ce3a00cd3a00cc3a00ca3a00c83a00c53a40c24ab0be3a40bc6820bb3a00ba6820b73a00b63a40b53a30b42e80b33a20b24a908d,
    0x5de0f24ae0e80390e33a00e13a00e03a00de3a00dd2ec0dc3a40db3a40da3a40d93a40d86820d63a40d44ac0d33a40d23a20d13a20d03a40cf3a50ce3a00cd3a00cc3a00ca3a00c83a00c53a40c24ab0be3a40bc6820bb3a00ba6820b73a00b63a40b53a30b42eb0b33a20b24a908d,
    0x5de0f24ae0e80390e33a00e13a00e03a00de3a00dd2f00dc3a40db3a40da3a40d93a40d86820d63a40d44ac0d33a40d23a20d13a20d03a40cf3a50ce3a00cd3a00cc3a00ca3a00c83a00c53a40c24ab0be3a40bc6820bb3a00ba6820b73a00b63a40b53a30b42ef0b33a20b22ee0ab4a908d,
    0x2f40d62f40bb2f40b7,
    0x2f70c42f70c25ac0be2f70bd2f70bc,
    0x2f80c42f80c25ac0be2f80bd2f80bc,
    0x50b0e82f90d5,
    0x2fa0f02fa0ef2fa0dd,
    0x50c0e82fb0d5,
    0x2fd0e8,
    0x2fe09b,
    0x2ff09b,
    0x30009b,
    0x7d0f203a0e80390e30260e10260e00260de0260dd0330db0330da0330d90330d80370d60330d40360d30330d20300d10300d00330cf0350ce0260cd0260cc0260ca0260c80260c50330c20340be0330bc0370bb0260ba0370b70260b60330b50320b43030b30300b202e08d,
    0x3070e6,
    0x30b0e8,
    0x30c09b,
    0x30d09b,
    0x30e0e6,
    0x30f09b,
    0x3100e8,
    0x5de0f24ae0e80390e33a00e13a00e03a00de3a00dd3a40db3a40da3a40d93a40d86820d63a40d44ac0d33a40d23a20d13a20d03a40cf3a50ce3a00cd3a00cc3a00ca3a00c83a00c53a40c24ab0be3a40bc6820bb3a00ba6820b73a00b63a40b53a30b42130b33a20b24a908d,
    0x31109b,
    0x3120e8,
    0x3130e8,
    0x3140e8,
    0x31509b,
    0x3160e8,
    0x3170f03170ef3170dd,
    0x3180f03180ef3180dd,
    0x3190f03190ef3190dd,
    0x31a0e8,
    0x31b0e8,
    0x31c0e8,
    0x31d09b,
    0x31e0e8,
    0x31f0f031f0ef31f0dd,
    0x3200f03200ef3200dd,
    0x3210f03210ef3210dd,
    0x3220e8,
    0x3230e8,
    0x3240e8,
    0x32509b,
    0x32609b,
    0x32709b,
    0x5980f7,
    0x5980f710c0f010c0ef10c0dd,
    0x32b0e8,
    0x32c09b,
    0x32d09b,
    0x32e0e6,
    0x3c0f232f0f103a0e80390e30260e10260e00260de0260dd0380dc0330db0330da0330d90330d80370d60330d40360d30330d20300d10300d00330cf0350ce0260cd0260cc02f0cb0260ca02f0c90260c802f0c60260c50330c20340be0330bc0370bb0260ba0370b70260b60330b50320b40310b30300b202d0ac02d0ab02d0aa02d0a902d0a802d0a702d0a602d0a502d0a402d0a302d0a202d0a002d09f02d09e02d09d02d09b02f09902f09802f09702d09632f09502d08e02e08d02d08c02d087,
    0x3310d5,
    0x5de0f24ae0e80390e33a00e13a00e03a00de3a00dd3340dc3a40db3a40da3a40d93a40d86820d63a40d44ac0d33a40d23a20d13a20d03a40cf3a50ce3a00cd3a00cc3a00ca3a00c83a00c53a40c24ab0be3a40bc6820bb3a00ba6820b73a00b63a40b53a30b43330b33a20b24a908d,
    0x5de0f24ae0e80390e33a00e13a00e03a00de3a00dd3390dc3a40db3a40da3a40d93a40d86820d63a40d44ac0d33a40d23a20d13a20d03a40cf3a50ce3a00cd3a00cc3a00ca3a00c83a00c53a40c24ab0be3a40bc6820bb3a00ba6820b73a00b63a40b53a30b43380b33a20b24a908d,
    0x3c0f203a0e80390e30260e10260e00260de0260dd0380dc0330db0330da0330d90330d80370d60330d40360d30330d20300d10300d00330cf0350ce0260cd0260cc02f0cb0260ca02f0c90260c802f0c60260c50330c20340be0330bc0370bb0260ba0370b70260b60330b50320b40310b30300b202d0ac02d0ab02d0aa02d0a902d0a802d0a702d0a602d0a502d0a402d0a302d0a202d0a002d09f02d09e02d09d02d09b02f09902f09802f09702d09634009502d08e02e08d02d08c02d087,
    0x5de0f24ae0e80390e33a00e13a00e03a00de3a00dd3440dc3a40db3a40da3a40d93a40d86820d63a40d44ac0d33a40d23a20d13a20d03a40cf3a50ce3a00cd3a00cc3a00ca3a00c83a00c53a40c24ab0be3a40bc6820bb3a00ba6820b73a00b63a40b53a30b43430b33a20b24a908d,
    0x5de0f24ae0e80390e33a00e13a00e03a00de3a00dd3470dc3a40db3a40da3a40d93a40d86820d63a40d44ac0d33a40d23a20d13a20d03a40cf3a50ce3a00cd3a00cc3a00ca3a00c83a00c53a40c24ab0be3a40bc6820bb3a00ba6820b73a00b63a40b53a30b43460b33a20b24a908d,
    0x34b0fd,
    0x34c0fe,
    0x51b0e834d0d5,
    0x34e09b,
    0x35209b,
    0x35309b,
    0x35409b,
    0x35509b,
    0x35609b,
    0x35709b,
    0x3580e8,
    0x3590e8,
    0x35a0e8,
    0x35b09b,
    0x35c09b,
    0x35d09b,
    0x35e09b,
    0x35f0e8,
    0x3600e8,
    0x3610e8,
    0x36209b,
    0x36309b,
    0x36409b,
    0x36509b,
    0x3c0f23660f103a0e80390e30260e10260e00260de0260dd0380dc0330db0330da0330d90330d80370d60330d40360d30330d20300d10300d00330cf0350ce0260cd0260cc02f0cb0260ca02f0c90260c802f0c60260c50330c20340be0330bc0370bb0260ba0370b70260b60330b50320b40310b30300b202d0ac02d0ab02d0aa02d0a902d0a802d0a702d0a602d0a502d0a402d0a302d0a202d0a002d09f02d09e02d09d02d09b02f09902f09802f09702d09636609502d08e02e08d02d08c02d087,
    0x5de0f24ae0e80390e33a00e13a00e03a00de3a00dd3690dc3a40db3a40da3a40d93a40d86820d63a40d44ac0d33a40d23a20d13a20d03a40cf3a50ce3a00cd3a00cc3a00ca3a00c83a00c53a40c24ab0be3a40bc6820bb3a00ba6820b73a00b63a40b53a30b43680b33a20b24a908d,
    0x5de0f24ae0e80390e33a00e13a00e03a00de3a00dd36b0dc3a40db3a40da3a40d93a40d86820d63a40d44ac0d33a40d23a20d13a20d03a40cf3a50ce3a00cd3a00cc3a00ca3a00c83a00c53a40c24ab0be3a40bc6820bb3a00ba6820b73a00b63a40b53a30b436a0b33a20b24a908d,
    0x5de0f24ae0e80390e33a00e13a00e03a00de3a00dd36d0dc3a40db3a40da3a40d93a40d86820d63a40d44ac0d33a40d23a20d13a20d03a40cf3a50ce3a00cd3a00cc3a00ca3a00c83a00c53a40c24ab0be3a40bc6820bb3a00ba6820b73a00b63a40b53a30b436c0b33a20b24a908d,
    0x5de0f24ae0e80390e33a00e13a00e03a00de3a00dd3700dc3a40db3a40da3a40d93a40d86820d63a40d44ac0d33a40d23a20d13a20d03a40cf3a50ce3a00cd3a00cc3a00ca3a00c83a00c53a40c24ab0be3a40bc6820bb3a00ba6820b73a00b63a40b53a30b436f0b33a20b24a908d,
    0x5de0f24ae0e80390e33a00e13a00e03a00de3a00dd3730dc3a40db3a40da3a40d93a40d86820d63a40d44ac0d33a40d23a20d13a20d03a40cf3a50ce3a00cd3a00cc3a00ca3a00c83a00c53a40c24ab0be3a40bc6820bb3a00ba6820b73a00b63a40b53a30b43720b33a20b24a908d,
    0x5de0f24ae0e80390e33a00e13a00e03a00de3a00dd3760dc3a40db3a40da3a40d93a40d86820d63a40d44ac0d33a40d23a20d13a20d03a40cf3a50ce3a00cd3a00cc3a00ca3a00c83a00c53a40c24ab0be3a40bc6820bb3a00ba6820b73a00b63a40b53a30b43750b33a20b24a908d,
    0x3c0f203a0e80390e30260e10260e00260de0260dd0380dc0330db0330da0330d90330d80370d60330d40360d30330d20300d10300d00330cf0350ce0260cd0260cc02f0cb0260ca02f0c90260c802f0c60260c50330c20340be0330bc0370bb0260ba0370b70260b60330b50320b40310b30300b202d0ac02d0ab02d0aa02d0a902d0a802d0a702d0a602d0a502d0a402d0a302d0a202d0a002d09f02d09e02d09d02d09b02f09902f09802f09702d09637709502d08e02e08d02d08c02d087,
    0x3c0f203a0e80390e30260e10260e00260de0260dd0380dc0330db0330da0330d90330d80370d60330d40360d30330d20300d10300d00330cf0350ce0260cd0260cc02f0cb0260ca02f0c90260c802f0c60260c50330c20340be0330bc0370bb0260ba0370b70260b60330b50320b40310b30300b202d0ac02d0ab02d0aa02d0a902d0a802d0a702d0a602d0a502d0a402d0a302d0a202d0a002d09f02d09e02d09d02d09b02f09902f09802f09702d09637809502d08e02e08d02d08c02d087,
    0x3c0f203a0e80390e30260e10260e00260de0260dd0380dc0330db0330da0330d90330d80370d60330d40360d30330d20300d10300d00330cf0350ce0260cd0260cc02f0cb0260ca02f0c90260c802f0c60260c50330c20340be0330bc0370bb0260ba0370b70260b60330b50320b40310b30300b202d0ac02d0ab02d0aa02d0a902d0a802d0a702d0a602d0a502d0a402d0a302d0a202d0a002d09f02d09e02d09d02d09b02f09902f09802f09702d09637a09502d08e02e08d02d08c02d087,
    0x5de0f24ae0e80390e33a00e13a00e03a00de3a00dd37e0dc3a40db3a40da3a40d93a40d86820d63a40d44ac0d33a40d23a20d13a20d03a40cf3a50ce3a00cd3a00cc3a00ca3a00c83a00c53a40c24ab0be3a40bc6820bb3a00ba6820b73a00b63a40b53a30b437d0b33a20b24a908d,
    0x37f09b,
    0x3810fd,
    0x3820fe,
    0x38409b,
    0x38509b,
    0x38609b,
    0x38709b,
    0x38809b,
    0x38909b,
    0x5de0f24ae0e80390e33a00e13a00e03a00de3a00dd3910dc3a40db3a40da3a40d93a40d86820d63a40d44ac0d33a40d23a20d13a20d03a40cf3a50ce3a00cd3a00cc3a00ca3a00c83a00c53a40c24ab0be3a40bc6820bb3a00ba6820b73a00b63a40b53a30b43900b33a20b24a908d,
    0x5de0f24ae0e80390e33a00e13a00e03a00de3a00dd3940dc3a40db3a40da3a40d93a40d86820d63a40d44ac0d33a40d23a20d13a20d03a40cf3a50ce3a00cd3a00cc3a00ca3a00c83a00c53a40c24ab0be3a40bc6820bb3a00ba6820b73a00b63a40b53a30b43930b33a20b24a908d,
    0x3c0f203a0e80390e30260e10260e00260de0260dd0380dc0330db0330da0330d90330d80370d60330d40360d30330d20300d10300d00330cf0350ce0260cd0260cc02f0cb0260ca02f0c90260c802f0c60260c50330c20340be0330bc0370bb0260ba0370b70260b60330b50320b40310b30300b202d0ac02d0ab02d0aa02d0a902d0a802d0a702d0a602d0a502d0a402d0a302d0a202d0a002d09f02d09e02d09d02d09b02f09902f09802f09702d09639609502d08e02e08d02d08c02d087,
    0x3c0f203a0e80390e30260e10260e00260de0260dd0380dc0330db0330da0330d90330d80370d60330d40360d30330d20300d10300d00330cf0350ce0260cd0260cc02f0cb0260ca02f0c90260c802f0c60260c50330c20340be0330bc0370bb0260ba0370b70260b60330b50320b40310b30300b202d0ac02d0ab02d0aa02d0a902d0a802d0a702d0a602d0a502d0a402d0a302d0a202d0a002d09f02d09e02d09d02d09b02f09902f09802f09702d09639709502d08e02e08d02d08c02d087,
    0x3c0f203a0e80390e30260e10260e00260de0260dd0380dc0330db0330da0330d90330d80370d60330d40360d30330d20300d10300d00330cf0350ce0260cd0260cc02f0cb0260ca02f0c90260c802f0c60260c50330c20340be0330bc0370bb0260ba0370b70260b60330b50320b40310b30300b202d0ac02d0ab02d0aa02d0a902d0a802d0a702d0a602d0a502d0a402d0a302d0a202d0a002d09f02d09e02d09d02d09b02f09902f09802f09702d09639809502d08e02e08d02d08c02d087,
    0x3c0f203a0e80390e30260e10260e00260de0260dd0380dc0330db0330da0330d90330d80370d60330d40360d30330d20300d10300d00330cf0350ce0260cd0260cc02f0cb0260ca02f0c90260c802f0c60260c50330c20340be0330bc0370bb0260ba0370b70260b60330b50320b40310b30300b202d0ac02d0ab02d0aa02d0a902d0a802d0a702d0a602d0a502d0a402d0a302d0a202d0a002d09f02d09e02d09d02d09b02f09902f09802f09702d09639c09502d08e02e08d02d08c02d087,
    0x5de0f24ae0e80390e33a00e13a00e03a00de3a00dd3a40db3a40da3a40d93a40d86820d63a40d44ac0d33a40d23a20d13a20d03a40cf3a50ce3a00cd3a00cc3a00ca3a00c83a00c53a40c24ab0be3a40bc6820bb3a00ba6820b73a00b63a40b53a30b43b50b33a20b24a908d,
    0x5de0f24ae0e80390e33a00e13a00e03a00de3a00dd3a40db3a40da3a40d93a40d86820d63a40d44ac0d33a40d23a20d13a20d03a40cf3a50ce3a00cd3a00cc3a00ca3a00c83a00c53a40c24ab0be3a40bc6820bb3a00ba6820b73a00b63a40b53a30b43bb0b33a20b24a908d,
    0x5de0f24ae0e80390e33a00e13a00e03a00de3a00dd3a40db3a40da3a40d93a40d86820d63a40d44ac0d33a40d23a20d13a20d03a40cf3a50ce3a00cd3a00cc3a00ca3a00c83a00c53a40c24ab0be3a40bc6820bb3a00ba6820b73a00b63a40b53a30b43bc0b33a20b24a908d,
    0x3d00de,
    0x5de0f24ae0e80390e33a00e13a00e03a00de3a00dd3a40db3a40da3a40d93a40d86820d63a40d44ac0d33a40d23a20d13a20d03a40cf3a50ce3a00cd3a00cc3a00ca3a00c83a00c53a40c24ab0be3a40bc6820bb3a00ba6820b73a00b63a40b53a30b43d40b33a20b24a908d,
    0x5de0f24ae0e80390e33a00e13a00e03a00de3a00dd3a40db3a40da3a40d93a40d86820d63a40d44ac0d33a40d23a20d13a20d03a40cf3a50ce3a00cd3a00cc3a00ca3a00c83a00c53a40c24ab0be3a40bc6820bb3a00ba6820b73a00b63a40b53a30b43d60b33a20b23d509b4a908d,
    0x5de0f26830e80390e33a00e13a00e03a00de3a00dd3a40db3a40da3a40d93a40d84ad0d63a40d46810d33a40d270e0d170e0d03a40cf3a50ce3a00cd3a00cc3a00ca3a00c83a00c53a40c24ab0be3a40bc4ad0bb3a00ba4ad0b73a00b63a40b53a30b43ad0b370e0b24a908d,
    0x6870e8,
    0x5de0f24ae0e80390e33a00e13a00e03a00de3a00dd3a40db3a40da3a40d93a40d86820d63a40d44ac0d33a40d23a20d13a20d03a40cf3a50ce3a00cd3a00cc3a00ca3a00c83a00c53a40c24ab0be3a40bc6820bb3a00ba6820b73a00b63a40b53a30b43f30b33a20b24a908d,
    0x3ff0e23d00de,
    0x5de0f24ae0e80390e33a00e13a00e03a00de3a00dd3a40db3a40da3a40d93a40d86820d63a40d44ac0d33a40d23a20d13a20d03a40cf3a50ce3a00cd3a00cc3a00ca3a00c83a00c53a40c24ab0be3a40bc6820bb3a00ba6820b73a00b63a40b53a30b44020b33a20b24a908d,
    0x5de0f24ae0e80390e33a00e13a00e03a00de3a00dd3a40db3a40da3a40d93a40d86820d63a40d44ac0d33a40d23a20d13a20d03a40cf3a50ce3a00cd3a00cc3a00ca3a00c83a00c53a40c24ab0be3a40bc6820bb3a00ba6820b73a00b63a40b53a30b44040b33a20b240309b4a908d,
    0x5de0f24ae0e80390e33a00e13a00e03a00de3a00dd3a40db3a40da3a40d93a40d86820d63a40d44ac0d33a40d23a20d13a20d03a40cf3a50ce3a00cd3a00cc3a00ca3a00c83a00c53a40c24ab0be3a40bc6820bb3a00ba6820b73a00b63a40b53a30b44050b33a20b24a908d,
    0x5de0f24ae0e80390e33a00e13a00e03a00de3a00dd3a40db3a40da3a40d93a40d86820d63a40d44ac0d33a40d23a20d13a20d03a40cf3a50ce3a00cd3a00cc3a00ca3a00c83a00c53a40c24ab0be3a40bc6820bb3a00ba6820b73a00b63a40b53a30b440b0b33a20b24a908d,
    0x5de0f24ae0e80390e33a00e13a00e03a00de3a00dd3a40db3a40da3a40d93a40d86820d63a40d44ac0d33a40d23a20d13a20d03a40cf3a50ce3a00cd3a00cc3a00ca3a00c83a00c53a40c24ab0be3a40bc6820bb3a00ba6820b73a00b63a40b53a30b440c0b33a20b24a908d,
    0x5de0f24ae0e80390e33a00e13a00e03a00de3a00dd3a40db3a40da3a40d93a40d86820d63a40d44ac0d33a40d23a20d13a20d03a40cf3a50ce3a00cd3a00cc3a00ca3a00c83a00c53a40c24ab0be3a40bc6820bb3a00ba6820b73a00b63a40b53a30b440d0b33a20b24a908d,
    0x5de0f24ae0e80390e33a00e13a00e03a00de3a00dd3a40db3a40da3a40d93a40d86820d63a40d44ac0d33a40d23a20d13a20d03a40cf3a50ce3a00cd3a00cc3a00ca3a00c83a00c53a40c24ab0be3a40bc6820bb3a00ba6820b73a00b63a40b53a30b440e0b33a20b24a908d,
    0x5de0f24ae0e80390e33a00e13a00e03a00de3a00dd3a40db3a40da3a40d93a40d86820d63a40d44ac0d33a40d23a20d13a20d03a40cf3a50ce3a00cd3a00cc3a00ca3a00c83a00c53a40c24ab0be3a40bc6820bb3a00ba6820b73a00b63a40b53a30b440f0b33a20b24a908d,
    0x5de0f24ae0e80390e33a00e13a00e03a00de3a00dd3a40db3a40da3a40d93a40d86820d63a40d44ac0d33a40d23a20d13a20d03a40cf3a50ce3a00cd3a00cc3a00ca3a00c83a00c53a40c24ab0be3a40bc6820bb3a00ba6820b73a00b63a40b53a30b44100b33a20b24a908d,
    0x5de0f24ae0e80390e33a00e13a00e03a00de3a00dd3a40db3a40da3a40d93a40d86820d63a40d44ac0d33a40d23a20d13a20d03a40cf3a50ce3a00cd3a00cc3a00ca3a00c83a00c53a40c24ab0be3a40bc6820bb3a00ba6820b73a00b63a40b53a30b44110b33a20b24a908d,
    0x5de0f24ae0e80390e33a00e13a00e03a00de3a00dd3a40db3a40da3a40d93a40d86820d63a40d44ac0d33a40d23a20d13a20d03a40cf3a50ce3a00cd3a00cc3a00ca3a00c83a00c53a40c24ab0be3a40bc6820bb3a00ba6820b73a00b63a40b53a30b44120b33a20b24a908d,
    0x5de0f24ae0e80390e33a00e13a00e03a00de3a00dd3a40db3a40da3a40d93a40d86820d63a40d44ac0d33a40d23a20d13a20d03a40cf3a50ce3a00cd3a00cc3a00ca3a00c83a00c53a40c24ab0be3a40bc6820bb3a00ba6820b73a00b63a40b53a30b44130b33a20b24a908d,
    0x5de0f24ae0e80390e33a00e13a00e03a00de3a00dd3a40db3a40da3a40d93a40d86820d63a40d44ac0d33a40d23a20d13a20d03a40cf3a50ce3a00cd3a00cc3a00ca3a00c83a00c53a40c24ab0be3a40bc6820bb3a00ba6820b73a00b63a40b53a30b44140b33a20b24a908d,
    0x5de0f24ae0e80390e33a00e13a00e03a00de3a00dd3a40db3a40da3a40d93a40d86820d63a40d44ac0d33a40d23a20d13a20d03a40cf3a50ce3a00cd3a00cc3a00ca3a00c83a00c53a40c24ab0be3a40bc6820bb3a00ba6820b73a00b63a40b53a30b44150b33a20b24a908d,
    0x5de0f24ae0e80390e33a00e13a00e03a00de3a00dd3a40db3a40da3a40d93a40d86820d63a40d44ac0d33a40d23a20d13a20d03a40cf3a50ce3a00cd3a00cc3a00ca3a00c83a00c53a40c24ab0be3a40bc6820bb3a00ba6820b73a00b63a40b53a30b44160b33a20b24a908d,
    0x4170ff,
    0x5de0f24ae0e80390e33a00e13a00e03a00de3a00dd3a40db3a40da3a40d93a40d86820d63a40d44ac0d33a40d23a20d13a20d03a40cf3a50ce3a00cd3a00cc3a00ca3a00c83a00c53a40c24ab0be3a40bc6820bb3a00ba6820b73a00b63a40b53a30b441c0b33a20b24a908d,
    0x5de0f24ae0e80390e33a00e13a00e03a00de3a00dd3a40db3a40da3a40d93a40d86820d63a40d44ac0d33a40d23a20d13a20d03a40cf3a50ce3a00cd3a00cc3a00ca3a00c83a00c53a40c24ab0be3a40bc6820bb3a00ba6820b73a00b63a40b53a30b441e0b33a20b241d09b4a908d,
    0x6170f06170ef6170dd,
    0x6190f06190ef6190dd,
    0x61b0f061b0ef61b0dd,
    0x61c0f061c0ef61c0dd,
    0x5de0f26c30e80390e33a00e13a00e03a00de3a00dd3a40db3a40da3a40d93a40d87110d63a40d46c20d33a40d27140d17140d03a40cf3a50ce3a00cd3a00cc3a00ca3a00c83a00c53a40c24ab0be3a40bc7110bb3a00ba7110b73a00b63a40b53a30b44730b37140b24a908d,
    0x1090f84e90f7,
    0x1090f84e90f710c0f010c0ef10c0dd,
    0x5de0f24ae0e80390e33a00e13a00e03a00de3a00dd3a40db3a40da3a40d93a40d86820d63a40d44ac0d33a40d23a20d13a20d03a40cf3a50ce3a00cd3a00cc3a00ca3a00c83a00c53a40c24ab0be3a40bc6820bb3a00ba6820b73a00b63a40b53a30b44310b33a20b243009b4a908d,
    0x5de0f24ae0e80390e33a00e13a00e03a00de3a00dd3a40db3a40da3a40d93a40d86820d63a40d44ac0d33a40d23a20d13a20d03a40cf3a50ce3a00cd3a00cc3a00ca3a00c83a00c53a40c24ab0be3a40bc6820bb3a00ba6820b73a00b63a40b53a30b44340b33a20b243309b4a908d,
    0x5de0f24ae0e80390e33a00e13a00e03a00de3a00dd3a40db3a40da3a40d93a40d86820d63a40d44ac0d33a40d23a20d13a20d03a40cf3a50ce3a00cd3a00cc3a00ca3a00c83a00c53a40c24ab0be3a40bc6820bb3a00ba6820b73a00b63a40b53a30b44360b33a20b243509b4a908d,
    0x62b0f062b0ef62b0dd,
    0x62c0f062c0ef62c0dd,
    0x62d0f062d0ef62d0dd,
    0x5de0f24ae0e80390e33a00e13a00e03a00de3a00dd3a40db3a40da3a40d93a40d86820d63a40d44ac0d33a40d23a20d13a20d03a40cf3a50ce3a00cd3a00cc3a00ca3a00c83a00c53a40c24ab0be3a40bc6820bb3a00ba6820b73a00b63a40b53a30b44490b33a20b24a908d,
    0x5de0f257b0e80390e33a00e13a00e03a00de3a00dd3a40db3a40da3a40d93a40d857a0d63a40d45790d33a40d26490d16490d03a40cf3a50ce3a00cd3a00cc3a00ca3a00c83a00c53a40c24ab0be3a40bc57a0bb3a00ba57a0b73a00b63a40b53a30b43ad0b36490b24a908d,
    0xa80fa4ce0f95de0f20900eb0a60ea4ae0e80390e33a00e13a00e03a00de3a00dd3a40db3a40da3a40d93a40d84cc0d708d0d63a40d44ac0d33a40d208c0d108c0d03a40cf3a50ce3a00cd3a00cc3a00ca3a00c83a00c53a40c24ab0be3a40bc08d0bb3a00ba0a40b808d0b73a00b63a40b53a30b44ca0b33a20b24a908d,
    0x4d4100,
    0x4d5101,
    0x5de0f24ae0e80390e33a00e13a00e03a00de3a00dd3a40db3a40da3a40d93a40d84ad0d63a40d46810d33a40d270e0d170e0d03a40cf3ba0ce3a00cd3a00cc3a00ca3a00c83a00c53a40c24ab0be3a40bc4ad0bb3a00ba4ad0b73a00b63a40b53b90b44de0b370e0b24a908d,
    0x4e01024e00df,
    0x4e80fb4e80c23d10c15780be4e80bd4e80bc,
    0x6dc0f203a0e80390e30260e10260e00260de0260dd0380dc0330db0330da0330d90330d80370d60330d40360d30330d20300d10300d00330cf0350ce0260cd0260cc02f0cb0260ca02f0c90260c802f0c60260c50330c20340be0330bc0370bb0260ba0370b70260b60330b50320b40310b30300b202d0ac02d0ab02d0aa02d0a902d0a802d0a702d0a602d0a502d0a402d0a302d0a202d0a002d09f02d09e02d09d02d09b02f09902f09802f09702d0960fc09502d08e02e08d02d08c02d087,
    0x1090f84e90f704b0f20390e302f0cb02f0c902f0c602f09902f09802f09704a08c049089048088,
    0x1090f84e90f706f0d606f0bb06f0b707109a,
    0x1090f84e90f707d0f203a0e80390e30260e10260e00260de0260dd0330db0330da0330d90330d80370d60330d40360d30330d20300d10300d00330cf0350ce0260cd0260cc0260ca0260c80260c50330c20340be0330bc0370bb0260ba0370b70260b60330b50320b407c0b30300b202e08d,
    0x1090f84e90f710c0f010c0ef0ba0e810c0dd,
    0x4eb0f8,
    0x4ec0f7,
    0x6dc0f203a0e80390e30260e10260e00260de0260dd0380dc0330db0330da0330d90330d80370d60330d40360d30330d20300d10300d00330cf0350ce0260cd0260cc02f0cb0260ca02f0c90260c802f0c60260c50330c20340be0330bc0370bb0260ba0370b70260b60330b50320b40310b30300b202d0ac02d0ab02d0aa02d0a902d0a802d0a702d0a602d0a502d0a402d0a302d0a202d0a002d09f02d09e02d09d02d09b02f09902f09802f09702d09614709502d08e02e08d02d08c02d087,
    0x620f814a0f014a0ef05b0ee05b0eb14a0dd1130d61130bb05b0b91130b7,
    0xa80fa5de0f20900eb0a60ea6830e80390e33a00e13a00e03a00de3a00dd3a40db3a40da3a40d93a40d86e00d63a40d46810d33a40d23b30d13b30d03a40cf3a50ce3a00cd3a00cc3a00ca3a00c83a00c53a40c24ab0be3a40bc6e00bb3a00ba0a40b86e00b73a00b63a40b53a30b44de0b370e0b24a908d,
    0x620f84ba0f71150f205e0f005e0ef05b0ee4b80ed4b80ec05b0eb0390e305e0dd4b80d71130d61130bb05b0b91130b7,
    0x3b80e64d80c7,
    0x6dc0f203a0e80390e30260e10260e00260de0260dd0380dc0330db0330da0330d90330d80370d60330d40360d30330d20300d10300d00330cf0350ce0260cd0260cc02f0cb0260ca02f0c90260c802f0c60260c50330c20340be0330bc0370bb0260ba0370b70260b60330b50320b40310b30300b202d0ac02d0ab02d0aa02d0a902d0a802d0a702d0a602d0a502d0a402d0a302d0a202d0a002d09f02d09e02d09d02d09b02f09902f09802f09702d0965fd09502d08e02e08d02d08c02d087,
    0x6dc0f203a0e80390e30260e10260e00260de0260dd0380dc0330db0330da0330d90330d80370d60330d40360d30330d20300d10300d00330cf0350ce0260cd0260cc02f0cb0260ca02f0c90260c802f0c60260c50330c20340be0330bc0370bb0260ba0370b70260b60330b50320b40310b30300b202d0ac02d0ab02d0aa02d0a902d0a802d0a702d0a602d0a502d0a402d0a302d0a202d0a002d09f02d09e02d09d02d09b02f09902f09802f09702d09617509502d08e02e08d02d08c02d087,
    0x6dc0f203a0e80390e30260e10260e00260de0260dd0380dc0330db0330da0330d90330d80370d60330d40360d30330d20300d10300d00330cf0350ce0260cd0260cc02f0cb0260ca02f0c90260c802f0c60260c50330c20340be0330bc0370bb0260ba0370b70260b60330b50320b40310b30300b202d0ac02d0ab02d0aa02d0a902d0a802d0a702d0a602d0a502d0a402d0a302d0a202d0a002d09f02d09e02d09d02d09b02f09902f09802f09702d09617b09502d08e02e08d02d08c02d087,
    0x3c0f24b90f103a0e80390e30260e10260e00260de0260dd0380dc0330db0330da0330d90330d80370d60330d40360d30330d20300d10300d00330cf0350ce0260cd0260cc02f0cb0260ca02f0c90260c802f0c60260c50330c20340be0330bc0370bb0260ba0370b70260b60330b50320b40310b30300b202d0ac02d0ab02d0aa02d0a902d0a802d0a702d0a602d0a502d0a402d0a302d0a202d0a002d09f02d09e02d09d02d09b02f09902f09802f09702d0964b909502d08e02e08d02d08c02d087,
    0x4f40f93c10e2,
    0x4f50fa,
    0x4f40f9,
    0x4f60fc1960c31970c01960bd,
    0x4f71031a50f21a40f01a40ef1a30ec1a20e91a10e70390e31a40dd,
    0x3f90e64f80c7,
    0x3fa0e6,
    0x3fe09b,
    0x4fe0f95de0f24ae0e80390e33a00e13a00e03a00de3a00dd3a40db3a40da3a40d93a40d84fd0d76820d63a40d44ac0d33a40d23a20d13a20d03a40cf3a50ce3a00cd3a00cc3a00ca3a00c83a00c53a40c24ab0be3a40bc6820bb3a00ba6820b73a00b63a40b53a30b44fc0b33a20b24a908d,
    0x4180e2,
    0x5de0f24ae0e80390e33a00e13a00e03a00de3a00dd5030dc3a40db3a40da3a40d93a40d85030d76820d63a40d44ac0d33a40d23a20d13a20d03a40cf3a50ce3a00cd3a00cc3a00ca3a00c83a00c53a40c24ab0be3a40bc6820bb3a00ba6820b73a00b63a40b53a30b45020b33a20b24a908d,
    0x5070c05060bf,
    0x1e50fb1e50c241b0c15780be1e50bd1e50bc,
    0x1090f8,
    0x7d0f26db0e80390e30260e10260e00260de0260dd0330db0330da0330d90330d86da0d60330d46d90d30330d26d80d16d80d00330cf0350ce0260cd0260cc0260ca0260c80260c50330c20340be0330bc6da0bb0260ba6da0b70260b60330b50320b44290b36d80b202e08d,
    0x42a0e650d0c7,
    0x41f0e65090c7,
    0x6dc0f203a0e80390e30260e10260e00260de0260dd0380dc0330db0330da0330d90330d80370d60330d40360d30330d20300d10300d00330cf0350ce0260cd0260cc02f0cb0260ca02f0c90260c802f0c60260c50330c20340be0330bc0370bb0260ba0370b70260b60330b50320b40310b30300b202d0ac02d0ab02d0aa02d0a902d0a802d0a702d0a602d0a502d0a402d0a302d0a202d0a002d09f02d09e02d09d02d09b02f09902f09802f09702d09624f09502d08e02e08d02d08c02d087,
    0x42f0e6,
    0x43209b,
    0x43709b,
    0x43809b,
    0x5140f93c10e2,
    0x5140f9,
    0x43f0e65170c7,
    0x4400e6,
    0x4420e6,
    0x44309b,
    0x4440e65210c7,
    0x6dc0f203a0e80390e30260e10260e00260de0260dd0380dc0330db0330da0330d90330d80370d60330d40360d30330d20300d10300d00330cf0350ce0260cd0260cc02f0cb0260ca02f0c90260c802f0c60260c50330c20340be0330bc0370bb0260ba0370b70260b60330b50320b40310b30300b202d0ac02d0ab02d0aa02d0a902d0a802d0a702d0a602d0a502d0a402d0a302d0a202d0a002d09f02d09e02d09d02d09b02f09902f09802f09702d0962d709502d08e02e08d02d08c02d087,
    0x44509b,
    0x44609b,
    0x44709b,
    0x44b0e6,
    0x44c09b,
    0x44d09b,
    0x44e0e6,
    0x6dc0f203a0e80390e30260e10260e00260de0260dd0380dc0330db0330da0330d90330d80370d60330d40360d30330d20300d10300d00330cf0350ce0260cd0260cc02f0cb0260ca02f0c90260c802f0c60260c50330c20340be0330bc0370bb0260ba0370b70260b60330b50320b40310b30300b202d0ac02d0ab02d0aa02d0a902d0a802d0a702d0a602d0a502d0a402d0a302d0a202d0a002d09f02d09e02d09d02d09b02f09902f09802f09702d09634009502d08e02e08d02d08c02d087,
    0x44f09b,
    0x45009b,
    0x6dc0f203a0e80390e30260e10260e00260de0260dd0380dc0330db0330da0330d90330d80370d60330d40360d30330d20300d10300d00330cf0350ce0260cd0260cc02f0cb0260ca02f0c90260c802f0c60260c50330c20340be0330bc0370bb0260ba0370b70260b60330b50320b40310b30300b202d0ac02d0ab02d0aa02d0a902d0a802d0a702d0a602d0a502d0a402d0a302d0a202d0a002d09f02d09e02d09d02d09b02f09902f09802f09702d09637709502d08e02e08d02d08c02d087,
    0x6dc0f203a0e80390e30260e10260e00260de0260dd0380dc0330db0330da0330d90330d80370d60330d40360d30330d20300d10300d00330cf0350ce0260cd0260cc02f0cb0260ca02f0c90260c802f0c60260c50330c20340be0330bc0370bb0260ba0370b70260b60330b50320b40310b30300b202d0ac02d0ab02d0aa02d0a902d0a802d0a702d0a602d0a502d0a402d0a302d0a202d0a002d09f02d09e02d09d02d09b02f09902f09802f09702d09637809502d08e02e08d02d08c02d087,
    0x6dc0f203a0e80390e30260e10260e00260de0260dd0380dc0330db0330da0330d90330d80370d60330d40360d30330d20300d10300d00330cf0350ce0260cd0260cc02f0cb0260ca02f0c90260c802f0c60260c50330c20340be0330bc0370bb0260ba0370b70260b60330b50320b40310b30300b202d0ac02d0ab02d0aa02d0a902d0a802d0a702d0a602d0a502d0a402d0a302d0a202d0a002d09f02d09e02d09d02d09b02f09902f09802f09702d09637a09502d08e02e08d02d08c02d087,
    0x6dc0f203a0e80390e30260e10260e00260de0260dd0380dc0330db0330da0330d90330d80370d60330d40360d30330d20300d10300d00330cf0350ce0260cd0260cc02f0cb0260ca02f0c90260c802f0c60260c50330c20340be0330bc0370bb0260ba0370b70260b60330b50320b40310b30300b202d0ac02d0ab02d0aa02d0a902d0a802d0a702d0a602d0a502d0a402d0a302d0a202d0a002d09f02d09e02d09d02d09b02f09902f09802f09702d09639609502d08e02e08d02d08c02d087,
    0x6dc0f203a0e80390e30260e10260e00260de0260dd0380dc0330db0330da0330d90330d80370d60330d40360d30330d20300d10300d00330cf0350ce0260cd0260cc02f0cb0260ca02f0c90260c802f0c60260c50330c20340be0330bc0370bb0260ba0370b70260b60330b50320b40310b30300b202d0ac02d0ab02d0aa02d0a902d0a802d0a702d0a602d0a502d0a402d0a302d0a202d0a002d09f02d09e02d09d02d09b02f09902f09802f09702d09639709502d08e02e08d02d08c02d087,
    0x6dc0f203a0e80390e30260e10260e00260de0260dd0380dc0330db0330da0330d90330d80370d60330d40360d30330d20300d10300d00330cf0350ce0260cd0260cc02f0cb0260ca02f0c90260c802f0c60260c50330c20340be0330bc0370bb0260ba0370b70260b60330b50320b40310b30300b202d0ac02d0ab02d0aa02d0a902d0a802d0a702d0a602d0a502d0a402d0a302d0a202d0a002d09f02d09e02d09d02d09b02f09902f09802f09702d09639809502d08e02e08d02d08c02d087,
    0x6dc0f203a0e80390e30260e10260e00260de0260dd0380dc0330db0330da0330d90330d80370d60330d40360d30330d20300d10300d00330cf0350ce0260cd0260cc02f0cb0260ca02f0c90260c802f0c60260c50330c20340be0330bc0370bb0260ba0370b70260b60330b50320b40310b30300b202d0ac02d0ab02d0aa02d0a902d0a802d0a702d0a602d0a502d0a402d0a302d0a202d0a002d09f02d09e02d09d02d09b02f09902f09802f09702d09639c09502d08e02e08d02d08c02d087,
    0x5de0f257b0e80390e33a00e13a00e03a00de3a00dd3a40db3a40da3a40d93a40d857a0d63a40d45790d33a40d26490d16490d03a40cf3a50ce3a00cd3a00cc3a00ca3a00c83a00c53a40c24ab0be3a40bc57a0bb3a00ba57a0b73a00b63a40b53a30b46510b36490b24a908d,
    0x5de0f257b0e80390e33a00e13a00e03a00de3a00dd3a40db3a40da3a40d93a40d857a0d63a40d45790d33a40d26490d16490d03a40cf3a50ce3a00cd3a00cc3a00ca3a00c83a00c53a40c24ab0be3a40bc57a0bb3a00ba57a0b73a00b63a40b53a30b43bb0b36490b24a908d,
    0x5de0f257b0e80390e33a00e13a00e03a00de3a00dd3a40db3a40da3a40d93a40d857a0d63a40d45790d33a40d26490d16490d03a40cf3a50ce3a00cd3a00cc3a00ca3a00c83a00c53a40c24ab0be3a40bc57a0bb3a00ba57a0b73a00b63a40b53a30b43bc0b36490b24a908d,
    0x5de0f257b0e80390e33a00e13a00e03a00de3a00dd3a40db3a40da3a40d93a40d857a0d63a40d45790d33a40d26490d16490d03a40cf3a50ce3a00cd3a00cc3a00ca3a00c83a00c53a40c24ab0be3a40bc57a0bb3a00ba57a0b73a00b63a40b53a30b45540b36490b24a908d,
    0x5de0f257b0e80390e33a00e13a00e03a00de3a00dd3a40db3a40da3a40d93a40d857a0d63a40d45790d33a40d26490d16490d03a40cf3a50ce3a00cd3a00cc3a00ca3a00c83a00c53a40c24ab0be3a40bc57a0bb3a00ba57a0b73a00b63a40b53a30b45550b36490b23d509b4a908d,
    0x5de0f257b0e80390e33a00e13a00e03a00de3a00dd3a40db3a40da3a40d93a40d857a0d63a40d45790d33a40d26490d16490d03a40cf3a50ce3a00cd3a00cc3a00ca3a00c83a00c53a40c24ab0be3a40bc57a0bb3a00ba57a0b73a00b63a40b53a30b45570b36490b24a908d,
    0x5de0f257b0e80390e33a00e13a00e03a00de3a00dd3a40db3a40da3a40d93a40d857a0d63a40d45790d33a40d26490d16490d03a40cf3a50ce3a00cd3a00cc3a00ca3a00c83a00c53a40c24ab0be3a40bc57a0bb3a00ba57a0b73a00b63a40b53a30b455b0b36490b24a908d,
    0x5de0f257b0e80390e33a00e13a00e03a00de3a00dd3a40db3a40da3a40d93a40d857a0d63a40d45790d33a40d26490d16490d03a40cf3a50ce3a00cd3a00cc3a00ca3a00c83a00c53a40c24ab0be3a40bc57a0bb3a00ba57a0b73a00b63a40b53a30b455c0b36490b240309b4a908d,
    0x5de0f257b0e80390e33a00e13a00e03a00de3a00dd3a40db3a40da3a40d93a40d857a0d63a40d45790d33a40d26490d16490d03a40cf3a50ce3a00cd3a00cc3a00ca3a00c83a00c53a40c24ab0be3a40bc57a0bb3a00ba57a0b73a00b63a40b53a30b455d0b36490b24a908d,
    0x5de0f257b0e80390e33a00e13a00e03a00de3a00dd3a40db3a40da3a40d93a40d857a0d63a40d45790d33a40d26490d16490d03a40cf3a50ce3a00cd3a00cc3a00ca3a00c83a00c53a40c24ab0be3a40bc57a0bb3a00ba57a0b73a00b63a40b53a30b455e0b36490b24a908d,
    0x5de0f257b0e80390e33a00e13a00e03a00de3a00dd3a40db3a40da3a40d93a40d857a0d63a40d45790d33a40d26490d16490d03a40cf3a50ce3a00cd3a00cc3a00ca3a00c83a00c53a40c24ab0be3a40bc57a0bb3a00ba57a0b73a00b63a40b53a30b455f0b36490b24a908d,
    0x5de0f257b0e80390e33a00e13a00e03a00de3a00dd3a40db3a40da3a40d93a40d857a0d63a40d45790d33a40d26490d16490d03a40cf3a50ce3a00cd3a00cc3a00ca3a00c83a00c53a40c24ab0be3a40bc57a0bb3a00ba57a0b73a00b63a40b53a30b45600b36490b24a908d,
    0x5de0f257b0e80390e33a00e13a00e03a00de3a00dd3a40db3a40da3a40d93a40d857a0d63a40d45790d33a40d26490d16490d03a40cf3a50ce3a00cd3a00cc3a00ca3a00c83a00c53a40c24ab0be3a40bc57a0bb3a00ba57a0b73a00b63a40b53a30b45610b36490b24a908d,
    0x5de0f257b0e80390e33a00e13a00e03a00de3a00dd3a40db3a40da3a40d93a40d857a0d63a40d45790d33a40d26490d16490d03a40cf3a50ce3a00cd3a00cc3a00ca3a00c83a00c53a40c24ab0be3a40bc57a0bb3a00ba57a0b73a00b63a40b53a30b45620b36490b24a908d,
    0x5de0f257b0e80390e33a00e13a00e03a00de3a00dd3a40db3a40da3a40d93a40d857a0d63a40d45790d33a40d26490d16490d03a40cf3a50ce3a00cd3a00cc3a00ca3a00c83a00c53a40c24ab0be3a40bc57a0bb3a00ba57a0b73a00b63a40b53a30b45630b36490b24a908d,
    0x5de0f257b0e80390e33a00e13a00e03a00de3a00dd3a40db3a40da3a40d93a40d857a0d63a40d45790d33a40d26490d16490d03a40cf3a50ce3a00cd3a00cc3a00ca3a00c83a00c53a40c24ab0be3a40bc57a0bb3a00ba57a0b73a00b63a40b53a30b45640b36490b24a908d,
    0x5de0f257b0e80390e33a00e13a00e03a00de3a00dd3a40db3a40da3a40d93a40d857a0d63a40d45790d33a40d26490d16490d03a40cf3a50ce3a00cd3a00cc3a00ca3a00c83a00c53a40c24ab0be3a40bc57a0bb3a00ba57a0b73a00b63a40b53a30b45650b36490b24a908d,
    0x5de0f257b0e80390e33a00e13a00e03a00de3a00dd3a40db3a40da3a40d93a40d857a0d63a40d45790d33a40d26490d16490d03a40cf3a50ce3a00cd3a00cc3a00ca3a00c83a00c53a40c24ab0be3a40bc57a0bb3a00ba57a0b73a00b63a40b53a30b45660b36490b24a908d,
    0x5de0f257b0e80390e33a00e13a00e03a00de3a00dd3a40db3a40da3a40d93a40d857a0d63a40d45790d33a40d26490d16490d03a40cf3a50ce3a00cd3a00cc3a00ca3a00c83a00c53a40c24ab0be3a40bc57a0bb3a00ba57a0b73a00b63a40b53a30b45670b36490b24a908d,
    0x5de0f257b0e80390e33a00e13a00e03a00de3a00dd3a40db3a40da3a40d93a40d857a0d63a40d45790d33a40d26490d16490d03a40cf3a50ce3a00cd3a00cc3a00ca3a00c83a00c53a40c24ab0be3a40bc57a0bb3a00ba57a0b73a00b63a40b53a30b45680b36490b24a908d,
    0x5de0f257b0e80390e33a00e13a00e03a00de3a00dd3a40db3a40da3a40d93a40d857a0d63a40d45790d33a40d26490d16490d03a40cf3a50ce3a00cd3a00cc3a00ca3a00c83a00c53a40c24ab0be3a40bc57a0bb3a00ba57a0b73a00b63a40b53a30b45690b36490b24a908d,
    0x5de0f257b0e80390e33a00e13a00e03a00de3a00dd3a40db3a40da3a40d93a40d857a0d63a40d45790d33a40d26490d16490d03a40cf3a50ce3a00cd3a00cc3a00ca3a00c83a00c53a40c24ab0be3a40bc57a0bb3a00ba57a0b73a00b63a40b53a30b456a0b36490b241d09b4a908d,
    0x5de0f257b0e80390e33a00e13a00e03a00de3a00dd3a40db3a40da3a40d93a40d857a0d63a40d45790d33a40d26490d16490d03a40cf3a50ce3a00cd3a00cc3a00ca3a00c83a00c53a40c24ab0be3a40bc57a0bb3a00ba57a0b73a00b63a40b53a30b456b0b36490b243009b4a908d,
    0x5de0f257b0e80390e33a00e13a00e03a00de3a00dd3a40db3a40da3a40d93a40d857a0d63a40d45790d33a40d26490d16490d03a40cf3a50ce3a00cd3a00cc3a00ca3a00c83a00c53a40c24ab0be3a40bc57a0bb3a00ba57a0b73a00b63a40b53a30b456c0b36490b243309b4a908d,
    0x5de0f257b0e80390e33a00e13a00e03a00de3a00dd3a40db3a40da3a40d93a40d857a0d63a40d45790d33a40d26490d16490d03a40cf3a50ce3a00cd3a00cc3a00ca3a00c83a00c53a40c24ab0be3a40bc57a0bb3a00ba57a0b73a00b63a40b53a30b456d0b36490b243509b4a908d,
    0x5de0f257b0e80390e33a00e13a00e03a00de3a00dd3a40db3a40da3a40d93a40d857a0d63a40d45790d33a40d26490d16490d03a40cf3a50ce3a00cd3a00cc3a00ca3a00c83a00c53a40c24ab0be3a40bc57a0bb3a00ba57a0b73a00b63a40b53a30b456f0b36490b24a908d,
    0x5930e8,
    0x620f80610f70600f24b90f105e0f005e0ef05b0ee05d0ed05d0ec05b0eb03a0e80390e30260e10260e00260de0550dd0380dc0330db0330da0330d90330d805d0d705c0d60330d40360d30330d20300d10300d00330cf0350ce0260cd0260cc02f0cb0260ca02f0c90260c802f0c60260c50330c20340be0330bc05c0bb0260ba05b0b905c0b70260b60330b50320b40310b30300b202d0ac02d0ab02d0aa02d0a902d0a802d0a702d0a602d0a502d0a402d0a302d0a202d0a002d09f02d09e02d09d02d09b02f09902f09802f09702d0964b909502d08e02e08d02d08c02d087,
    0x58e100,
    0x58f101,
    0x5de0f26830e80390e33a00e13a00e03a00de3a00dd3a40db3a40da3a40d93a40d84ad0d63a40d46810d33a40d270e0d170e0d03a40cf3ba0ce3a00cd3a00cc3a00ca3a00c83a00c53a40c24ab0be3a40bc4ad0bb3a00ba4ad0b73a00b63a40b53b90b44de0b370e0b24a908d,
    0x5970fb5970c245d0c15780be5970bd5970bc,
    0x5990f7,
    0x3c0f25840f103a0e80390e30260e10260e00260de0260dd0380dc0330db0330da0330d90330d80370d60330d40360d30330d20300d10300d00330cf0350ce0260cd0260cc02f0cb0260ca02f0c90260c802f0c60260c50330c20340be0330bc0370bb0260ba0370b70260b60330b50320b40310b30300b202d0ac02d0ab02d0aa02d0a902d0a802d0a702d0a602d0a502d0a402d0a302d0a202d0a002d09f02d09e02d09d02d09b02f09902f09802f09702d09658409502d08e02e08d02d08c02d087,
    0x59a0fc1960c31970c01960bd,
    0x59b1031a50f21a40f01a40ef1a30ec1a20e91a10e70390e31a40dd,
    0x59e0f95de0f24ae0e80390e33a00e13a00e03a00de3a00dd3a40db3a40da3a40d93a40d859d0d76820d63a40d44ac0d33a40d23a20d13a20d03a40cf3a50ce3a00cd3a00cc3a00ca3a00c83a00c53a40c24ab0be3a40bc6820bb3a00ba6820b73a00b63a40b53a30b459c0b33a20b24a908d,
    0x5a30c05a20bf,
    0x1e50fb1e50c246f0c15780be1e50bd1e50bc,
    0x5a40f93c10e2,
    0x5a40f9,
    0x620f84ba0f70600f25840f105e0f005e0ef05b0ee4b80ed4b80ec05b0eb03a0e80390e30260e10260e00260de0550dd0380dc0330db0330da0330d90330d84b80d705c0d60330d40360d30330d20300d10300d00330cf0350ce0260cd0260cc02f0cb0260ca02f0c90260c802f0c60260c50330c20340be0330bc05c0bb0260ba05b0b905c0b70260b60330b50320b40310b30300b202d0ac02d0ab02d0aa02d0a902d0a802d0a702d0a602d0a502d0a402d0a302d0a202d0a002d09f02d09e02d09d02d09b02f09902f09802f09702d09658409502d08e02e08d02d08c02d087,
    0x5b6100,
    0x5b7101,
    0x5de0f257b0e80390e33a00e13a00e03a00de3a00dd3a40db3a40da3a40d93a40d84ad0d63a40d46810d33a40d270e0d170e0d03a40cf3ba0ce3a00cd3a00cc3a00ca3a00c83a00c53a40c24ab0be3a40bc4ad0bb3a00ba4ad0b73a00b63a40b53b90b44de0b370e0b24a908d,
    0x5ba0fb5ba0c247d0c15780be5ba0bd5ba0bc,
    0x3c0f25ad0f103a0e80390e30260e10260e00260de0260dd0380dc0330db0330da0330d90330d80370d60330d40360d30330d20300d10300d00330cf0350ce0260cd0260cc02f0cb0260ca02f0c90260c802f0c60260c50330c20340be0330bc0370bb0260ba0370b70260b60330b50320b40310b30300b202d0ac02d0ab02d0aa02d0a902d0a802d0a702d0a602d0a502d0a402d0a302d0a202d0a002d09f02d09e02d09d02d09b02f09902f09802f09702d0965ad09502d08e02e08d02d08c02d087,
    0x5bb0fc1960c31970c01960bd,
    0x5bf0c05be0bf,
    0x1e50fb1e50c248b0c15780be1e50bd1e50bc,
    0x3c0f25d80f103a0e80390e30260e10260e00260de0260dd0380dc0330db0330da0330d90330d80370d60330d40360d30330d20300d10300d00330cf0350ce0260cd0260cc02f0cb0260ca02f0c90260c802f0c60260c50330c20340be0330bc0370bb0260ba0370b70260b60330b50320b40310b30300b202d0ac02d0ab02d0aa02d0a902d0a802d0a702d0a602d0a502d0a402d0a302d0a202d0a002d09f02d09e02d09d02d09b02f09902f09802f09702d0965d809502d08e02e08d02d08c02d087,
    0x4bd0b2,
    0x4c40b2,
    0x4c50a1,
    0x5de0f20900eb08f0ea4ae0e80390e33a00e13a00e03a00de3a00dd5880dc3a40db3a40da3a40d93a40d808d0d63a40d44ac0d33a40d208c0d108c0d03a40cf3a50ce3a00cd3a00cc3a00ca3a00c83a00c53a40c24ab0be3a40bc08d0bb3a00ba08b0b808d0b73a00b63a40b53a30b45870b33a20b24a908d,
    0x4c80b2,
    0x4d30c04d20bf,
    0x7d0f26db0e80390e30260e10260e00260de0260dd0330db0330da0330d90330d86da0d60330d46d90d30330d26d80d16d80d00330cf0350ce0260cd0260cc0260ca0260c80260c50330c20340be0330bc6da0bb0260ba6da0b70260b60330b50320b40c40b36d80b202e08d,
    0x5f50f203a0e80390e30260e10260e00260de0260dd0330db0330da0330d90330d80370d60330d40360d30330d20300d10300d00330cf0350ce0260cd0260cc02f0cb0260ca02f0c90260c802f0c60260c50330c20340be0330bc0370bb0260ba0370b70260b60330b50320b40f60b30300b202f09902f09802f09702e08d0f508c,
    0x7d0f26db0e80390e30260e10260e00260de0260dd0330db0330da0330d90330d86da0d60330d46d90d30330d26d80d16d80d00330cf0350ce0260cd0260cc0260ca0260c80260c50330c20340be0330bc6da0bb0260ba6da0b70260b60330b50320b45f60b36d80b202e08d,
    0x7d0f26db0e80390e30260e10260e00260de0260dd0330db0330da0330d90330d86da0d60330d46d90d30330d26d80d16d80d00330cf0350ce0260cd0260cc0260ca0260c80260c50330c20340be0330bc6da0bb0260ba6da0b70260b60330b50320b45f70b36d80b210209b02e08d,
    0x5de0f24ae0e80390e33a00e13a00e03a00de3a00dd5b00dc3a40db3a40da3a40d93a40d86820d63a40d44ac0d33a40d23a20d13a20d03a40cf3a50ce3a00cd3a00cc3a00ca3a00c83a00c53a40c24ab0be3a40bc6820bb3a00ba6820b73a00b63a40b53a30b45af0b33a20b24a908d,
    0x7d0f26db0e80390e30260e10260e00260de0260dd0330db0330da0330d90330d86da0d60330d46d90d30330d26d80d16d80d00330cf0350ce0260cd0260cc0260ca0260c80260c50330c20340be0330bc6da0bb0260ba6da0b70260b60330b50320b407c0b36d80b202e08d,
    0x6e50e8,
    0x4dc0e8,
    0x4f30a1,
    0x7d0f26db0e80390e30260e10260e00260de0260dd0330db0330da0330d90330d86da0d60330d46d90d30330d26d80d16d80d00330cf0350ce0260cd0260cc0260ca0260c80260c50330c20340be0330bc6da0bb0260ba6da0b70260b60330b50320b45ff0b36d80b202e08d,
    0x4fb0e8,
    0x7d0f26db0e80390e30260e10260e00260de0260dd0330db0330da0330d90330d86da0d60330d46d90d30330d26d80d16d80d00330cf0350ce0260cd0260cc0260ca0260c80260c50330c20340be0330bc6da0bb0260ba6da0b70260b60330b50320b46050b36d80b202e08d,
    0x7d0f26db0e80390e30260e10260e00260de0260dd0330db0330da0330d90330d86da0d60330d46d90d30330d26d80d16d80d00330cf0350ce0260cd0260cc0260ca0260c80260c50330c20340be0330bc6da0bb0260ba6da0b70260b60330b50320b46060b36d80b21bc09b02e08d,
    0x7d0f26db0e80390e30260e10260e00260de0260dd0330db0330da0330d90330d86da0d60330d46d90d30330d26d80d16d80d00330cf0350ce0260cd0260cc0260ca0260c80260c50330c20340be0330bc6da0bb0260ba6da0b70260b60330b50320b46070b36d80b202e08d,
    0x5de0f26830e80390e33a00e13a00e03a00de3a00dd3a40db3a40da3a40d93a40d84ad0d63a40d46810d33a40d270e0d170e0d03a40cf3a50ce3a00cd3a00cc3a00ca3a00c83a00c53a40c24ab0be3a40bc4ad0bb3a00ba4ad0b73a00b63a40b53a30b44ff0b370e0b24a908d,
    0x7d0f26db0e80390e30260e10260e00260de0260dd0330db0330da0330d90330d86da0d60330d46d90d30330d26d80d16d80d00330cf0350ce0260cd0260cc0260ca0260c80260c50330c20340be0330bc6da0bb0260ba6da0b70260b60330b50320b46080b36d80b202e08d,
    0x5de0f24ae0e80390e33a00e13a00e03a00de3a00dd5010dc3a40db3a40da3a40d93a40d86820d63a40d44ac0d33a40d23a20d13a20d03a40cf3a50ce3a00cd3a00cc3a00ca3a00c83a00c53a40c24ab0be3a40bc6820bb3a00ba6820b73a00b63a40b53a30b45000b33a20b24a908d,
    0x7d0f26db0e80390e30260e10260e00260de0260dd0330db0330da0330d90330d86da0d60330d46d90d30330d26d80d16d80d00330cf0350ce0260cd0260cc0260ca0260c80260c50330c20340be0330bc6da0bb0260ba6da0b70260b60330b50320b460a0b36d80b202e08d,
    0x7d0f26db0e80390e30260e10260e00260de0260dd0330db0330da0330d90330d86da0d60330d46d90d30330d26d80d16d80d00330cf0350ce0260cd0260cc0260ca0260c80260c50330c20340be0330bc6da0bb0260ba6da0b70260b60330b50320b460b0b36d80b202e08d,
    0x7d0f26db0e80390e30260e10260e00260de0260dd0330db0330da0330d90330d86da0d60330d46d90d30330d26d80d16d80d00330cf0350ce0260cd0260cc0260ca0260c80260c50330c20340be0330bc6da0bb0260ba6da0b70260b60330b50320b460c0b36d80b202e08d,
    0x7d0f26db0e80390e30260e10260e00260de0260dd0330db0330da0330d90330d86da0d60330d46d90d30330d26d80d16d80d00330cf0350ce0260cd0260cc0260ca0260c80260c50330c20340be0330bc6da0bb0260ba6da0b70260b60330b50320b460d0b36d80b202e08d,
    0x7d0f26db0e80390e30260e10260e00260de0260dd0330db0330da0330d90330d86da0d60330d46d90d30330d26d80d16d80d00330cf0350ce0260cd0260cc0260ca0260c80260c50330c20340be0330bc6da0bb0260ba6da0b70260b60330b50320b460e0b36d80b202e08d,
    0x7d0f26db0e80390e30260e10260e00260de0260dd0330db0330da0330d90330d86da0d60330d46d90d30330d26d80d16d80d00330cf0350ce0260cd0260cc0260ca0260c80260c50330c20340be0330bc6da0bb0260ba6da0b70260b60330b50320b460f0b36d80b202e08d,
    0x7d0f26db0e80390e30260e10260e00260de0260dd0330db0330da0330d90330d86da0d60330d46d90d30330d26d80d16d80d00330cf0350ce0260cd0260cc0260ca0260c80260c50330c20340be0330bc6da0bb0260ba6da0b70260b60330b50320b46100b36d80b202e08d,
    0x7d0f26db0e80390e30260e10260e00260de0260dd0330db0330da0330d90330d86da0d60330d46d90d30330d26d80d16d80d00330cf0350ce0260cd0260cc0260ca0260c80260c50330c20340be0330bc6da0bb0260ba6da0b70260b60330b50320b46110b36d80b202e08d,
    0x7d0f26db0e80390e30260e10260e00260de0260dd0330db0330da0330d90330d86da0d60330d46d90d30330d26d80d16d80d00330cf0350ce0260cd0260cc0260ca0260c80260c50330c20340be0330bc6da0bb0260ba6da0b70260b60330b50320b46120b36d80b202e08d,
    0x7d0f26db0e80390e30260e10260e00260de0260dd0330db0330da0330d90330d86da0d60330d46d90d30330d26d80d16d80d00330cf0350ce0260cd0260cc0260ca0260c80260c50330c20340be0330bc6da0bb0260ba6da0b70260b60330b50320b46130b36d80b202e08d,
    0x7d0f26db0e80390e30260e10260e00260de0260dd0330db0330da0330d90330d86da0d60330d46d90d30330d26d80d16d80d00330cf0350ce0260cd0260cc0260ca0260c80260c50330c20340be0330bc6da0bb0260ba6da0b70260b60330b50320b46140b36d80b202e08d,
    0x7d0f26db0e80390e30260e10260e00260de0260dd0330db0330da0330d90330d86da0d60330d46d90d30330d26d80d16d80d00330cf0350ce0260cd0260cc0260ca0260c80260c50330c20340be0330bc6da0bb0260ba6da0b70260b60330b50320b46150b36d80b21e709b02e08d,
    0x5de0f24ae0e80390e33a00e13a00e03a00de3a00dd3a40db3a40da3a40d93a40d86820d63a40d44ac0d33a40d23a20d13a20d03a40cf3a50ce3a00cd3a00cc3a00ca3a00c83a00c53a40c24ab0be3a40bc6820bb3a00ba6820b73a00b63a40b53a30b450a0b33a20b24a908d,
    0x50b0e8,
    0x4f90e8,
    0x4fa0e8,
    0x50e0e8,
    0x7d0f26db0e80390e30260e10260e00260de0260dd0330db0330da0330d90330d86da0d60330d46d90d30330d26d80d16d80d00330cf0350ce0260cd0260cc0260ca0260c80260c50330c20340be0330bc6da0bb0260ba6da0b70260b60330b50320b46210b36d80b227b09b02e08d,
    0x5120e8,
    0x7d0f26db0e80390e30260e10260e00260de0260dd0330db0330da0330d90330d86da0d60330d46d90d30330d26d80d16d80d00330cf0350ce0260cd0260cc0260ca0260c80260c50330c20340be0330bc6da0bb0260ba6da0b70260b60330b50320b46230b36d80b228109b02e08d,
    0x7d0f26db0e80390e30260e10260e00260de0260dd0330db0330da0330d90330d86da0d60330d46d90d30330d26d80d16d80d00330cf0350ce0260cd0260cc0260ca0260c80260c50330c20340be0330bc6da0bb0260ba6da0b70260b60330b50320b46240b36d80b228309b02e08d,
    0x5130e8,
    0x5de0f24ae0e80390e33a00e13a00e03a00de3a00dd5160dc3a40db3a40da3a40d93a40d86820d63a40d44ac0d33a40d23a20d13a20d03a40cf3a50ce3a00cd3a00cc3a00ca3a00c83a00c53a40c24ab0be3a40bc6820bb3a00ba6820b73a00b63a40b53a30b45150b33a20b24a908d,
    0x5f50f203a0e80390e30260e10260e00260de0260dd0330db0330da0330d90330d80370d60330d40360d30330d20300d10300d00330cf0350ce0260cd0260cc02f0cb0260ca02f0c90260c802f0c60260c50330c20340be0330bc0370bb0260ba0370b70260b60330b50320b42940b30300b202f09902f09802f09702e08d29308c,
    0x5180e8,
    0x5190e8,
    0x51a0e8,
    0x51c0e8,
    0x51d0e8,
    0x51e0e8,
    0x5110e8,
    0x51f0e8,
    0x5200e8,
    0x5de0f24ae0e80390e33a00e13a00e03a00de3a00dd6340dc3a40db3a40da3a40d93a40d86820d63a40d44ac0d33a40d23a20d13a20d03a40cf3a50ce3a00cd3a00cc3a00ca3a00c83a00c53a40c24ab0be3a40bc6820bb3a00ba6820b73a00b63a40b53a30b46330b33a20b24a908d,
    0x5230e8,
    0x7d0f26db0e80390e30260e10260e00260de0260dd0330db0330da0330d90330d86da0d60330d46d90d30330d26d80d16d80d00330cf0350ce0260cd0260cc0260ca0260c80260c50330c20340be0330bc6da0bb0260ba6da0b70260b60330b50320b46370b36d80b202e08d,
    0x5240e8,
    0x5250e8,
    0x5260e8,
    0x5270e8,
    0x5280e8,
    0x5290e8,
    0x52a0e8,
    0x52b0e8,
    0x52c0e8,
    0x52d0e8,
    0x52e0e8,
    0x52f0e8,
    0x5300e8,
    0x5de0f24ae0e80390e33a00e13a00e03a00de3a00dd63f0dc3a40db3a40da3a40d93a40d86820d63a40d44ac0d33a40d23a20d13a20d03a40cf3a50ce3a00cd3a00cc3a00ca3a00c83a00c53a40c24ab0be3a40bc6820bb3a00ba6820b73a00b63a40b53a30b463e0b33a20b24a908d,
    0x5de0f24ae0e80390e33a00e13a00e03a00de3a00dd6410dc3a40db3a40da3a40d93a40d86820d63a40d44ac0d33a40d23a20d13a20d03a40cf3a50ce3a00cd3a00cc3a00ca3a00c83a00c53a40c24ab0be3a40bc6820bb3a00ba6820b73a00b63a40b53a30b46400b33a20b24a908d,
    0x5340e8,
    0x5350e8,
    0x5360e8,
    0x5370e8,
    0x5380e8,
    0x5390e8,
    0x5de0f24ae0e80390e33a00e13a00e03a00de3a00dd6440dc3a40db3a40da3a40d93a40d86820d63a40d44ac0d33a40d23a20d13a20d03a40cf3a50ce3a00cd3a00cc3a00ca3a00c83a00c53a40c24ab0be3a40bc6820bb3a00ba6820b73a00b63a40b53a30b46430b33a20b24a908d,
    0x5de0f26830e80390e33a00e13a00e03a00de3a00dd3a40db3a40da3a40d93a40d84ad0d63a40d46810d33a40d270e0d170e0d03a40cf3a50ce3a00cd3a00cc3a00ca3a00c83a00c53a40c24ab0be3a40bc4ad0bb3a00ba4ad0b73a00b63a40b53a30b47100b370e0b24a908d,
    0x5de0f26830e80390e33a00e13a00e03a00de3a00dd3a40db3a40da3a40d93a40d84ad0d63a40d46810d33a40d270e0d170e0d03a40cf3a50ce3a00cd3a00cc3a00ca3a00c83a00c53a40c24ab0be3a40bc4ad0bb3a00ba4ad0b73a00b63a40b53a30b43bb0b370e0b24a908d,
    0x5de0f26830e80390e33a00e13a00e03a00de3a00dd3a40db3a40da3a40d93a40d84ad0d63a40d46810d33a40d270e0d170e0d03a40cf3a50ce3a00cd3a00cc3a00ca3a00c83a00c53a40c24ab0be3a40bc4ad0bb3a00ba4ad0b73a00b63a40b53a30b43bc0b370e0b24a908d,
    0x5de0f26830e80390e33a00e13a00e03a00de3a00dd3a40db3a40da3a40d93a40d84ad0d63a40d46810d33a40d270e0d170e0d03a40cf3a50ce3a00cd3a00cc3a00ca3a00c83a00c53a40c24ab0be3a40bc4ad0bb3a00ba4ad0b73a00b63a40b53a30b46620b370e0b24a908d,
    0x5de0f26830e80390e33a00e13a00e03a00de3a00dd3a40db3a40da3a40d93a40d84ad0d63a40d46810d33a40d270e0d170e0d03a40cf3a50ce3a00cd3a00cc3a00ca3a00c83a00c53a40c24ab0be3a40bc4ad0bb3a00ba4ad0b73a00b63a40b53a30b46630b370e0b23d509b4a908d,
    0x5de0f26830e80390e33a00e13a00e03a00de3a00dd3a40db3a40da3a40d93a40d84ad0d63a40d46810d33a40d270e0d170e0d03a40cf3a50ce3a00cd3a00cc3a00ca3a00c83a00c53a40c24ab0be3a40bc4ad0bb3a00ba4ad0b73a00b63a40b53a30b46640b370e0b24a908d,
    0x5de0f26830e80390e33a00e13a00e03a00de3a00dd3a40db3a40da3a40d93a40d84ad0d63a40d46810d33a40d270e0d170e0d03a40cf3a50ce3a00cd3a00cc3a00ca3a00c83a00c53a40c24ab0be3a40bc4ad0bb3a00ba4ad0b73a00b63a40b53a30b46680b370e0b24a908d,
    0x5de0f26830e80390e33a00e13a00e03a00de3a00dd3a40db3a40da3a40d93a40d84ad0d63a40d46810d33a40d270e0d170e0d03a40cf3a50ce3a00cd3a00cc3a00ca3a00c83a00c53a40c24ab0be3a40bc4ad0bb3a00ba4ad0b73a00b63a40b53a30b46690b370e0b240309b4a908d,
    0x5de0f26830e80390e33a00e13a00e03a00de3a00dd3a40db3a40da3a40d93a40d84ad0d63a40d46810d33a40d270e0d170e0d03a40cf3a50ce3a00cd3a00cc3a00ca3a00c83a00c53a40c24ab0be3a40bc4ad0bb3a00ba4ad0b73a00b63a40b53a30b466a0b370e0b24a908d,
    0x5de0f26830e80390e33a00e13a00e03a00de3a00dd3a40db3a40da3a40d93a40d84ad0d63a40d46810d33a40d270e0d170e0d03a40cf3a50ce3a00cd3a00cc3a00ca3a00c83a00c53a40c24ab0be3a40bc4ad0bb3a00ba4ad0b73a00b63a40b53a30b466b0b370e0b24a908d,
    0x5de0f26830e80390e33a00e13a00e03a00de3a00dd3a40db3a40da3a40d93a40d84ad0d63a40d46810d33a40d270e0d170e0d03a40cf3a50ce3a00cd3a00cc3a00ca3a00c83a00c53a40c24ab0be3a40bc4ad0bb3a00ba4ad0b73a00b63a40b53a30b466c0b370e0b24a908d,
    0x5de0f26830e80390e33a00e13a00e03a00de3a00dd3a40db3a40da3a40d93a40d84ad0d63a40d46810d33a40d270e0d170e0d03a40cf3a50ce3a00cd3a00cc3a00ca3a00c83a00c53a40c24ab0be3a40bc4ad0bb3a00ba4ad0b73a00b63a40b53a30b466d0b370e0b24a908d,
    0x5de0f26830e80390e33a00e13a00e03a00de3a00dd3a40db3a40da3a40d93a40d84ad0d63a40d46810d33a40d270e0d170e0d03a40cf3a50ce3a00cd3a00cc3a00ca3a00c83a00c53a40c24ab0be3a40bc4ad0bb3a00ba4ad0b73a00b63a40b53a30b466e0b370e0b24a908d,
    0x5de0f26830e80390e33a00e13a00e03a00de3a00dd3a40db3a40da3a40d93a40d84ad0d63a40d46810d33a40d270e0d170e0d03a40cf3a50ce3a00cd3a00cc3a00ca3a00c83a00c53a40c24ab0be3a40bc4ad0bb3a00ba4ad0b73a00b63a40b53a30b466f0b370e0b24a908d,
    0x5de0f26830e80390e33a00e13a00e03a00de3a00dd3a40db3a40da3a40d93a40d84ad0d63a40d46810d33a40d270e0d170e0d03a40cf3a50ce3a00cd3a00cc3a00ca3a00c83a00c53a40c24ab0be3a40bc4ad0bb3a00ba4ad0b73a00b63a40b53a30b46700b370e0b24a908d,
    0x5de0f26830e80390e33a00e13a00e03a00de3a00dd3a40db3a40da3a40d93a40d84ad0d63a40d46810d33a40d270e0d170e0d03a40cf3a50ce3a00cd3a00cc3a00ca3a00c83a00c53a40c24ab0be3a40bc4ad0bb3a00ba4ad0b73a00b63a40b53a30b46710b370e0b24a908d,
    0x5de0f26830e80390e33a00e13a00e03a00de3a00dd3a40db3a40da3a40d93a40d84ad0d63a40d46810d33a40d270e0d170e0d03a40cf3a50ce3a00cd3a00cc3a00ca3a00c83a00c53a40c24ab0be3a40bc4ad0bb3a00ba4ad0b73a00b63a40b53a30b46720b370e0b24a908d,
    0x5de0f26830e80390e33a00e13a00e03a00de3a00dd3a40db3a40da3a40d93a40d84ad0d63a40d46810d33a40d270e0d170e0d03a40cf3a50ce3a00cd3a00cc3a00ca3a00c83a00c53a40c24ab0be3a40bc4ad0bb3a00ba4ad0b73a00b63a40b53a30b46730b370e0b24a908d,
    0x5de0f26830e80390e33a00e13a00e03a00de3a00dd3a40db3a40da3a40d93a40d84ad0d63a40d46810d33a40d270e0d170e0d03a40cf3a50ce3a00cd3a00cc3a00ca3a00c83a00c53a40c24ab0be3a40bc4ad0bb3a00ba4ad0b73a00b63a40b53a30b46740b370e0b24a908d,
    0x5de0f26830e80390e33a00e13a00e03a00de3a00dd3a40db3a40da3a40d93a40d84ad0d63a40d46810d33a40d270e0d170e0d03a40cf3a50ce3a00cd3a00cc3a00ca3a00c83a00c53a40c24ab0be3a40bc4ad0bb3a00ba4ad0b73a00b63a40b53a30b46750b370e0b24a908d,
    0x5de0f26830e80390e33a00e13a00e03a00de3a00dd3a40db3a40da3a40d93a40d84ad0d63a40d46810d33a40d270e0d170e0d03a40cf3a50ce3a00cd3a00cc3a00ca3a00c83a00c53a40c24ab0be3a40bc4ad0bb3a00ba4ad0b73a00b63a40b53a30b46760b370e0b24a908d,
    0x5de0f26830e80390e33a00e13a00e03a00de3a00dd3a40db3a40da3a40d93a40d84ad0d63a40d46810d33a40d270e0d170e0d03a40cf3a50ce3a00cd3a00cc3a00ca3a00c83a00c53a40c24ab0be3a40bc4ad0bb3a00ba4ad0b73a00b63a40b53a30b46770b370e0b241d09b4a908d,
    0x5de0f26830e80390e33a00e13a00e03a00de3a00dd3a40db3a40da3a40d93a40d84ad0d63a40d46810d33a40d270e0d170e0d03a40cf3a50ce3a00cd3a00cc3a00ca3a00c83a00c53a40c24ab0be3a40bc4ad0bb3a00ba4ad0b73a00b63a40b53a30b46780b370e0b243009b4a908d,
    0x5de0f26830e80390e33a00e13a00e03a00de3a00dd3a40db3a40da3a40d93a40d84ad0d63a40d46810d33a40d270e0d170e0d03a40cf3a50ce3a00cd3a00cc3a00ca3a00c83a00c53a40c24ab0be3a40bc4ad0bb3a00ba4ad0b73a00b63a40b53a30b46790b370e0b243309b4a908d,
    0x5de0f26830e80390e33a00e13a00e03a00de3a00dd3a40db3a40da3a40d93a40d84ad0d63a40d46810d33a40d270e0d170e0d03a40cf3a50ce3a00cd3a00cc3a00ca3a00c83a00c53a40c24ab0be3a40bc4ad0bb3a00ba4ad0b73a00b63a40b53a30b467a0b370e0b243509b4a908d,
    0x5de0f26830e80390e33a00e13a00e03a00de3a00dd3a40db3a40da3a40d93a40d84ad0d63a40d46810d33a40d270e0d170e0d03a40cf3a50ce3a00cd3a00cc3a00ca3a00c83a00c53a40c24ab0be3a40bc4ad0bb3a00ba4ad0b73a00b63a40b53a30b467c0b370e0b24a908d,
    0x58d0c058c0bf,
    0x5de0f26830e80390e33a00e13a00e03a00de3a00dd3a40db3a40da3a40d93a40d84ad0d63a40d46810d33a40d270e0d170e0d03a40cf3a50ce3a00cd3a00cc3a00ca3a00c83a00c53a40c24ab0be3a40bc4ad0bb3a00ba4ad0b73a00b63a40b53a30b46880b370e0b24a908d,
    0x5de0f26c30e80390e33a00e13a00e03a00de3a00dd3a40db3a40da3a40d93a40d87110d63a40d46c20d33a40d27140d17140d03a40cf3a50ce3a00cd3a00cc3a00ca3a00c83a00c53a40c24ab0be3a40bc7110bb3a00ba7110b73a00b63a40b53a30b47160b37140b24a908d,
    0x5de0f26c30e80390e33a00e13a00e03a00de3a00dd3a40db3a40da3a40d93a40d87110d63a40d46c20d33a40d27140d17140d03a40cf3a50ce3a00cd3a00cc3a00ca3a00c83a00c53a40c24ab0be3a40bc7110bb3a00ba7110b73a00b63a40b53a30b43bb0b37140b24a908d,
    0x5de0f26c30e80390e33a00e13a00e03a00de3a00dd3a40db3a40da3a40d93a40d87110d63a40d46c20d33a40d27140d17140d03a40cf3a50ce3a00cd3a00cc3a00ca3a00c83a00c53a40c24ab0be3a40bc7110bb3a00ba7110b73a00b63a40b53a30b43bc0b37140b24a908d,
    0x5de0f26c30e80390e33a00e13a00e03a00de3a00dd3a40db3a40da3a40d93a40d87110d63a40d46c20d33a40d27140d17140d03a40cf3a50ce3a00cd3a00cc3a00ca3a00c83a00c53a40c24ab0be3a40bc7110bb3a00ba7110b73a00b63a40b53a30b46a30b37140b24a908d,
    0x5de0f26c30e80390e33a00e13a00e03a00de3a00dd3a40db3a40da3a40d93a40d87110d63a40d46c20d33a40d27140d17140d03a40cf3a50ce3a00cd3a00cc3a00ca3a00c83a00c53a40c24ab0be3a40bc7110bb3a00ba7110b73a00b63a40b53a30b46a40b37140b23d509b4a908d,
    0x5de0f26c30e80390e33a00e13a00e03a00de3a00dd3a40db3a40da3a40d93a40d87110d63a40d46c20d33a40d27140d17140d03a40cf3a50ce3a00cd3a00cc3a00ca3a00c83a00c53a40c24ab0be3a40bc7110bb3a00ba7110b73a00b63a40b53a30b46a50b37140b24a908d,
    0x5de0f26c30e80390e33a00e13a00e03a00de3a00dd3a40db3a40da3a40d93a40d87110d63a40d46c20d33a40d27140d17140d03a40cf3a50ce3a00cd3a00cc3a00ca3a00c83a00c53a40c24ab0be3a40bc7110bb3a00ba7110b73a00b63a40b53a30b46a90b37140b24a908d,
    0x5de0f26c30e80390e33a00e13a00e03a00de3a00dd3a40db3a40da3a40d93a40d87110d63a40d46c20d33a40d27140d17140d03a40cf3a50ce3a00cd3a00cc3a00ca3a00c83a00c53a40c24ab0be3a40bc7110bb3a00ba7110b73a00b63a40b53a30b46aa0b37140b240309b4a908d,
    0x5de0f26c30e80390e33a00e13a00e03a00de3a00dd3a40db3a40da3a40d93a40d87110d63a40d46c20d33a40d27140d17140d03a40cf3a50ce3a00cd3a00cc3a00ca3a00c83a00c53a40c24ab0be3a40bc7110bb3a00ba7110b73a00b63a40b53a30b46ab0b37140b24a908d,
    0x5de0f26c30e80390e33a00e13a00e03a00de3a00dd3a40db3a40da3a40d93a40d87110d63a40d46c20d33a40d27140d17140d03a40cf3a50ce3a00cd3a00cc3a00ca3a00c83a00c53a40c24ab0be3a40bc7110bb3a00ba7110b73a00b63a40b53a30b46ac0b37140b24a908d,
    0x5de0f26c30e80390e33a00e13a00e03a00de3a00dd3a40db3a40da3a40d93a40d87110d63a40d46c20d33a40d27140d17140d03a40cf3a50ce3a00cd3a00cc3a00ca3a00c83a00c53a40c24ab0be3a40bc7110bb3a00ba7110b73a00b63a40b53a30b46ad0b37140b24a908d,
    0x5de0f26c30e80390e33a00e13a00e03a00de3a00dd3a40db3a40da3a40d93a40d87110d63a40d46c20d33a40d27140d17140d03a40cf3a50ce3a00cd3a00cc3a00ca3a00c83a00c53a40c24ab0be3a40bc7110bb3a00ba7110b73a00b63a40b53a30b46ae0b37140b24a908d,
    0x5de0f26c30e80390e33a00e13a00e03a00de3a00dd3a40db3a40da3a40d93a40d87110d63a40d46c20d33a40d27140d17140d03a40cf3a50ce3a00cd3a00cc3a00ca3a00c83a00c53a40c24ab0be3a40bc7110bb3a00ba7110b73a00b63a40b53a30b46af0b37140b24a908d,
    0x5de0f26c30e80390e33a00e13a00e03a00de3a00dd3a40db3a40da3a40d93a40d87110d63a40d46c20d33a40d27140d17140d03a40cf3a50ce3a00cd3a00cc3a00ca3a00c83a00c53a40c24ab0be3a40bc7110bb3a00ba7110b73a00b63a40b53a30b46b00b37140b24a908d,
    0x5de0f26c30e80390e33a00e13a00e03a00de3a00dd3a40db3a40da3a40d93a40d87110d63a40d46c20d33a40d27140d17140d03a40cf3a50ce3a00cd3a00cc3a00ca3a00c83a00c53a40c24ab0be3a40bc7110bb3a00ba7110b73a00b63a40b53a30b46b10b37140b24a908d,
    0x5de0f26c30e80390e33a00e13a00e03a00de3a00dd3a40db3a40da3a40d93a40d87110d63a40d46c20d33a40d27140d17140d03a40cf3a50ce3a00cd3a00cc3a00ca3a00c83a00c53a40c24ab0be3a40bc7110bb3a00ba7110b73a00b63a40b53a30b46b20b37140b24a908d,
    0x5de0f26c30e80390e33a00e13a00e03a00de3a00dd3a40db3a40da3a40d93a40d87110d63a40d46c20d33a40d27140d17140d03a40cf3a50ce3a00cd3a00cc3a00ca3a00c83a00c53a40c24ab0be3a40bc7110bb3a00ba7110b73a00b63a40b53a30b46b30b37140b24a908d,
    0x5de0f26c30e80390e33a00e13a00e03a00de3a00dd3a40db3a40da3a40d93a40d87110d63a40d46c20d33a40d27140d17140d03a40cf3a50ce3a00cd3a00cc3a00ca3a00c83a00c53a40c24ab0be3a40bc7110bb3a00ba7110b73a00b63a40b53a30b46b40b37140b24a908d,
    0x5de0f26c30e80390e33a00e13a00e03a00de3a00dd3a40db3a40da3a40d93a40d87110d63a40d46c20d33a40d27140d17140d03a40cf3a50ce3a00cd3a00cc3a00ca3a00c83a00c53a40c24ab0be3a40bc7110bb3a00ba7110b73a00b63a40b53a30b46b50b37140b24a908d,
    0x5de0f26c30e80390e33a00e13a00e03a00de3a00dd3a40db3a40da3a40d93a40d87110d63a40d46c20d33a40d27140d17140d03a40cf3a50ce3a00cd3a00cc3a00ca3a00c83a00c53a40c24ab0be3a40bc7110bb3a00ba7110b73a00b63a40b53a30b46b60b37140b24a908d,
    0x5de0f26c30e80390e33a00e13a00e03a00de3a00dd3a40db3a40da3a40d93a40d87110d63a40d46c20d33a40d27140d17140d03a40cf3a50ce3a00cd3a00cc3a00ca3a00c83a00c53a40c24ab0be3a40bc7110bb3a00ba7110b73a00b63a40b53a30b46b70b37140b24a908d,
    0x5de0f26c30e80390e33a00e13a00e03a00de3a00dd3a40db3a40da3a40d93a40d87110d63a40d46c20d33a40d27140d17140d03a40cf3a50ce3a00cd3a00cc3a00ca3a00c83a00c53a40c24ab0be3a40bc7110bb3a00ba7110b73a00b63a40b53a30b46b80b37140b241d09b4a908d,
    0x5de0f26c30e80390e33a00e13a00e03a00de3a00dd3a40db3a40da3a40d93a40d87110d63a40d46c20d33a40d27140d17140d03a40cf3a50ce3a00cd3a00cc3a00ca3a00c83a00c53a40c24ab0be3a40bc7110bb3a00ba7110b73a00b63a40b53a30b46b90b37140b243009b4a908d,
    0x5de0f26c30e80390e33a00e13a00e03a00de3a00dd3a40db3a40da3a40d93a40d87110d63a40d46c20d33a40d27140d17140d03a40cf3a50ce3a00cd3a00cc3a00ca3a00c83a00c53a40c24ab0be3a40bc7110bb3a00ba7110b73a00b63a40b53a30b46ba0b37140b243309b4a908d,
    0x5de0f26c30e80390e33a00e13a00e03a00de3a00dd3a40db3a40da3a40d93a40d87110d63a40d46c20d33a40d27140d17140d03a40cf3a50ce3a00cd3a00cc3a00ca3a00c83a00c53a40c24ab0be3a40bc7110bb3a00ba7110b73a00b63a40b53a30b46bb0b37140b243509b4a908d,
    0x5de0f26c30e80390e33a00e13a00e03a00de3a00dd3a40db3a40da3a40d93a40d87110d63a40d46c20d33a40d27140d17140d03a40cf3a50ce3a00cd3a00cc3a00ca3a00c83a00c53a40c24ab0be3a40bc7110bb3a00ba7110b73a00b63a40b53a30b46bd0b37140b24a908d,
    0x5b50c05b40bf,
    0x5de0f26830e80390e33a00e13a00e03a00de3a00dd3a40db3a40da3a40d93a40d84ad0d63a40d46810d33a40d270e0d170e0d03a40cf3a50ce3a00cd3a00cc3a00ca3a00c83a00c53a40c24ab0be3a40bc4ad0bb3a00ba4ad0b73a00b63a40b53a30b459f0b370e0b24a908d,
    0x5de0f26c30e80390e33a00e13a00e03a00de3a00dd3a40db3a40da3a40d93a40d87110d63a40d46c20d33a40d27140d17140d03a40cf3a50ce3a00cd3a00cc3a00ca3a00c83a00c53a40c24ab0be3a40bc7110bb3a00ba7110b73a00b63a40b53a30b43ad0b37140b24a908d,
    0x6c60e8,
    0x5de0f26830e80390e33a00e13a00e03a00de3a00dd3a40db3a40da3a40d93a40d84ad0d63a40d46810d33a40d270e0d170e0d03a40cf3a50ce3a00cd3a00cc3a00ca3a00c83a00c53a40c24ab0be3a40bc4ad0bb3a00ba4ad0b73a00b63a40b53a30b46c70b370e0b24a908d,
    0x7d0f26db0e80390e30260e10260e00260de0260dd0330db0330da0330d90330d86da0d60330d46d90d30330d26d80d16d80d00330cf0350ce0260cd0260cc0260ca0260c80260c50330c20340be0330bc6da0bb0260ba6da0b70260b60330b50320b46e10b36d80b202e08d,
    0x7d0f26db0e80390e30260e10260e00260de0260dd3a40db3a40da3a40d93a40d84ad0d63a40d46810d33a40d24aa0d14aa0d03a40cf0c10ce0260cd0260cc0260ca0260c80260c53a40c24ab0be3a40bc4ad0bb0260ba4ad0b70260b63a40b50c00b40bf0b34aa0b202e08d,
    0x7d0f26db0e80390e30260e10260e00260de0260dd0330db0330da0330d90330d86da0d60330d46d90d30330d26d80d16d80d00330cf0350ce0260cd0260cc0260ca0260c80260c50330c20340be0330bc6da0bb0260ba6da0b70260b60330b50320b40c20b36d80b202e08d,
    0x6180f06180ef6180dd,
    0x61a0f061a0ef61a0dd,
    0x5de0f24ae0e80390e33a00e13a00e03a00de3a00dd7030dc3a40db3a40da3a40d93a40d86820d63a40d44ac0d33a40d23a20d13a20d03a40cf3a50ce3a00cd3a00cc3a00ca3a00c83a00c53a40c24ab0be3a40bc6820bb3a00ba6820b73a00b63a40b53a30b47020b33a20b26200ab4a908d,
    0x6260f06260ef6260dd,
    0x6270f06270ef6270dd,
    0x6280f06280ef6280dd,
    0x6290f06290ef6290dd,
    0x62a0f062a0ef62a0dd,
    0x62e0f062e0ef62e0dd,
    0x62f0f062f0ef62f0dd,
    0x6300f06300ef6300dd,
    0x6310f06310ef6310dd,
    0x5de0f24ae0e80390e33a00e13a00e03a00de3a00dd70c0dc3a40db3a40da3a40d93a40d86820d63a40d44ac0d33a40d23a20d13a20d03a40cf3a50ce3a00cd3a00cc3a00ca3a00c83a00c53a40c24ab0be3a40bc6820bb3a00ba6820b73a00b63a40b53a30b470b0b33a20b26360ab4a908d,
    0x6380f06380ef6380dd,
    0x6390f06390ef6390dd,
    0x63a0f063a0ef63a0dd,
    0x63b0f063b0ef63b0dd,
    0x63c0f063c0ef63c0dd,
    0x63d0f063d0ef63d0dd,
    0x5de0f26c30e80390e33a00e13a00e03a00de3a00dd3a40db3a40da3a40d93a40d84ad0d63a40d46810d33a40d270e0d170e0d03a40cf3ba0ce3a00cd3a00cc3a00ca3a00c83a00c53a40c24ab0be3a40bc4ad0bb3a00ba4ad0b73a00b63a40b53b90b44de0b370e0b24a908d,
    0x5de0f24ae0e80390e33a00e13a00e03a00de3a00dd71c0dc3a40db3a40da3a40d93a40d81730d63a40d44ac0d33a40d21710d11710d03a40cf3a50ce3a00cd3a00cc3a00ca3a00c83a00c53a40c24ab0be3a40bc1730bb3a00ba1730b73a00b63a40b53a30b471b0b31710b26f30ab6f30986f30974a908d,
    0x5de0f26830e80390e33a00e13a00e03a00de3a00dd3a40db3a40da3a40d93a40d84ad0d63a40d46810d33a40d270e0d170e0d03a40cf3a50ce3a00cd3a00cc3a00ca3a00c83a00c53a40c24ab0be3a40bc4ad0bb3a00ba4ad0b73a00b63a40b53a30b46f70b370e0b24a908d]

end ScriptDeps.Grammar
