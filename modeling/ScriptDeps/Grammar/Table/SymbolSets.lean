namespace ScriptDeps.Grammar

/-! # Sets of tokens

Bit `n` of a set stands for token `n`.
-/

/-- The sets of tokens that the parse table uses, by number. -/
def symbolSets : List Nat :=
  [
    0x2ffffce9ffffffffffffcdb7ffffffffff,
    0x1000001000000000000000000000000000,
    0x1,
    0x2,
    0x4,
    0x8,
    0x80,
    0x400,
    0x1000,
    0x2000,
    0x4000,
    0x8000,
    0x10000,
    0x20000,
    0x100000,
    0x200000,
    0x400000,
    0x800000,
    0x1000000,
    0x8000000,
    0x10000000,
    0x20000000,
    0x40000000,
    0x80000000,
    0x100000000,
    0x200000000,
    0x400000000,
    0x8000000000,
    0x20000000000,
    0x100000000000,
    0x4000000000000,
    0x8000000000000,
    0x40000000000000,
    0x100000000000000,
    0x200000000000000,
    0x1000000000000000,
    0x7c006000000000000000000000,
    0x8000000000000000000000,
    0x180000000000000000000000000,
    0x2000000000000000000000000000,
    0x7c40000000000000000000000000000,
    0x80000000000000000000000000000,
    0x8000000000000000000000000000000,
    0x10000000000000000000000000000000,
    0x1a0000000000000000000000000000000,
    0x10,
    0x20,
    0xa00002183ffffe0000800b20005800100,
    0xc000,
    0x800000000,
    0x10000000000,
    0x400000000000000,
    0xfffe000000000000000,
    0x100,
    0x200,
    0x10000000000000000000,
    0x40000000000000000000000000000,
    0x7c00000000000000000000000000000,
    0x20000000000000000000000000000000,
    0x40000000000000000000000000000000,
    0x180000000000000000000000000000000,
    0x800000000800000,
    0x800000000000,
    0x40000,
    0xa00002183ffffe0000800b00005800110,
    0x1a0000000000000000000000000004008,
    0xa00000003ff1fe0000800a00005000110,
    0x6000000000000000000000,
    0x7c000000000000000000000000,
    0x2000000,
    0x1bfcc21fc00e00000134c1297fbfbf6ab,
    0x200000000000000000000000001000000,
    0xa00000003ff1fe0000800a00005000300,
    0x40000000000,
    0x200000000000,
    0x400000000000,
    0xa00000000000000000000000000,
    0xc00000000000000000000000000,
    0x80000000000000,
    0x1a0000000000000000100000000024008,
    0xa00002183ffffe0000800b20005000110,
    0x10000000000000000000000000000,
    0x400000800000000000000000000000000,
    0x4000000000000000000000000000,
    0xa00002183ffffe0000800b20005840310,
    0xa00002183ffffe0000800b20005800110,
    0x4000000,
    0xa00002183ffffe0000800b20005800310,
    0x1bfcc21fc00e00000134c1297f9fbf6ab,
    0x800000000000000,
    0x18000000000000000000010,
    0x2840000000000300004000000,
    0x20000000000000000000,
    0x40000000000000000000,
    0x380000000000000000000,
    0x400000000000000000000,
    0x800000000000000000000,
    0x1000000000000000000000,
    0x20000000000000000000000,
    0x780000000000000000000000,
    0x1000000000000000000000000,
    0x800000000000000000000000000000000,
    0xa00000183ffffe0000000300005840310,
    0x2000000000000000000000080000000000,
    0x1000000000000,
    0xa00000183ffffe0000800b20005840310,
    0x1f00c000000000000014c02000002401a,
    0x40,
    0x800,
    0x1a0000000000000000000000000000008,
    0x22,
    0xa00002183ffffe0000800b20005000100,
    0x1a000000000000000010000000002400a,
    0xc0000000000000000000000000000,
    0x2400a,
    0x300,
    0x800000003ff1fe0000800a00004000110,
    0x200000000000000000000000000000000,
    0xa00002183ffffe0000800b00005000110,
    0x20000000000000000100000000024008,
    0xa00002183ffffe0000800b00005000100,
    0x800800000,
    0x2000000000000000000000000002400a,
    0x24002,
    0x80000000000000000000000000000000,
    0x100000000000000000000000000000000,
    0x200000000000000000000000000000,
    0x200000000000000000000000001000100,
    0xa00000003ff1fe0000800a00005000310,
    0xa00002183ffffe0000800b20005000310,
    0xa00002003ffffe0000000300005040310,
    0x800002183ffffe0000800b20004800010,
    0x40002000300,
    0x800000003ff1fe0000800a00004000010,
    0x400000000000080,
    0x800002183ffffe0000800b20004000010,
    0x50002000300,
    0x2000000000,
    0x4000000000,
    0x200002000000000000000000001000300,
    0x40000000100,
    0x2000000000000000000001180000000080,
    0x400000000002,
    0x2000000000000,
    0xa00002183ffffe0000800b20805840310,
    0x100000000000000000000000000000,
    0xa00000183ffffe0000000300005040310,
    0xa00000183ffffe0000800b20005040310,
    0x8000000000000000000000000000,
    0xa00002183ffffe0000000300005040310,
    0x1000000221,
    0x1e00c000000000000014c02000002401a,
    0xa00002183ffffe0000800b00005800010,
    0xa00000003ff1fe0000800a00005000010,
    0xa00002183ffffe0000800b20005000010,
    0x200000000000000000000000001000800,
    0x2000000000000000010000000002400a,
    0x1bfcc21fc00e00000134c12f7f9fbf7ab,
    0x40000000300,
    0x50006040300,
    0x200000000000000000000010005040100,
    0x1bfcc21fc00e00000134c1297f9f3f6ab,
    0x80000,
    0x1000000000,
    0x18000,
    0x800002183ffffe0000800b20001800110,
    0x800002183ffffe0000800b00001800110,
    0x800000003ff1fe0000800a00001000110,
    0x800002183ffffe0000800b20001000110,
    0x4040000,
    0xa00002183ffffefffe800b30005840310,
    0x40002000100,
    0x40002000000,
    0x2600000000082,
    0xbbfcc21ffffffe0001b4cb297fdfff7bb,
    0x200000000000000000000010001800000,
    0x1f00c000000000000010c02000102421a,
    0x1f00c000000000000010c02000002421a,
    0x20000000000000000000000000000,
    0xa00002003fc1c60000000300005000300,
    0xa00002003fdffe0000000300005000310,
    0xa00002001000060000000000001000300,
    0xa00002001000040000000000001000300,
    0xa00002003fc1fe0000000300005000300,
    0xa00002001001c60000000000001000300,
    0xa00002001001860000000000001000300,
    0xa00002001001060000000000001000300,
    0xa00002003fc7fe0000000300005000300,
    0xa00002001781c60000000000001000300,
    0xa00002001000000000000000001000300,
    0x200000000000000000000000001001000,
    0x1f00c000000000000010c02000102431a,
    0x800002183ffffe0000800b00000800010,
    0x1000100,
    0x2000100,
    0x1bfcc21fc00e00000134c1297f8fbf6ab,
    0x1bfcc21fc00e00000134c12d7f9fbf6ab,
    0x2610000000082,
    0x2200000000000,
    0x2e00000000082,
    0x400006800000000000000000000000000,
    0x1f00c000000000000014c82000082401a,
    0x1000000220,
    0x10080000000000,
    0x20080000000000,
    0x1bfcc21fc00e00000134c1287f9f3f48a,
    0x800000003ff1fe0000800a40807000300,
    0x800002183ffffe0000800b60807840390,
    0x800002183ffffe0000800b60807800310,
    0x800000183ffffe0000000340807840390,
    0x800000183ffffe0000800b60807840390,
    0x800002183ffffe0000800b20005800110,
    0x8080000,
    0x800002003ffffe0000000340807040390,
    0x2000000000000000040803000300,
    0x800002183ffffe0000800b20804840090,
    0x200000000000000000000010001801000,
    0x800000183ffffe0000000340807040390,
    0x800000183ffffe0000800b60807040390,
    0x800002183ffffe0000000340807040390,
    0x40803000200,
    0x9bfcc21ffffffe0001b4cb297fdfff7bb,
    0x10006040000,
    0x800002183ffffe0000800b60807800390,
    0x800002003fc1c60000000340807000300,
    0x800002183ffffefffe800b70807840390,
    0x800002003fdffe0000000340807000310,
    0x40803000300,
    0x800002001000060000000040803000300,
    0x800002001000040000000040803000300,
    0x800002003fc1fe0000000340807000300,
    0x800002001001c60000000040803000300,
    0x800002001001860000000040803000300,
    0x800002001001060000000040803000300,
    0x800002003fc7fe0000000340807000300,
    0x800002001781c60000000040803000300,
    0x800002001000000000000040803000300,
    0x200000000000000000000000001040100,
    0x2840000000000300000000000,
    0x800002183ffffe0000800b20005840310,
    0x800000003ff1fe0000800a40807000310,
    0x800002183ffffe0000800b60807000310,
    0x3bfcc21fc00e00000134c1297f9fbf6ab,
    0xa00002183ffffe0000800b20005840110,
    0x800800b40,
    0x800002183ffffe0000800b20004840010,
    0x10000040000,
    0x10000000100,
    0x800000003ff1fe0000800a00004000000,
    0x2000000000000000000000000080,
    0x800002003fc1c60000000300004000080,
    0x800002003fdffe0000000300004000090,
    0x800002001000060000000000000000080,
    0x800002001000040000000000000000080,
    0x800002003fc1fe0000000300004000080,
    0x800002001001c60000000000000000080,
    0x800002001001860000000000000000080,
    0x800002001001060000000000000000080,
    0x800002003fc7fe0000000300004000080,
    0x800002001781c60000000000000000080,
    0x800002001000000000000000000000080,
    0x800002183ffffe0000800b20004800090,
    0x800002183ffffe0000800b20004000090,
    0xa00000003ff1fe0000800a00005040110,
    0xa00002183ffffe0000800b20005040110,
    0x200002000000000000000000001040100,
    0x800000003ff1fe0000800a00000000010,
    0xa00002003fc1c60000000300005040100,
    0xa00002003fdffe0000000300005040110,
    0xa00002001000060000000000001040100,
    0xa00002001000040000000000001040100,
    0xa00002003fc1fe0000000300005040100,
    0xa00002001001c60000000000001040100,
    0xa00002001001860000000000001040100,
    0xa00002001001060000000000001040100,
    0xa00002003fc7fe0000000300005040100,
    0xa00002001781c60000000000001040100,
    0xa00002001000000000000000001040100,
    0x800000003ff1fe0000800a00804000000,
    0x2000000000000000000800000000,
    0x800002003fc1c60000000300804000000,
    0x800002003fdffe0000000300804000010,
    0x800002001000060000000000800000000,
    0x800002001000040000000000800000000,
    0x800002003fc1fe0000000300804000000,
    0x800002001001c60000000000800000000,
    0x800002001001860000000000800000000,
    0x800002001001060000000000800000000,
    0x800002003fc7fe0000000300804000000,
    0x800002001781c60000000000800000000,
    0x800002001000000000000000800000000,
    0x800000003ff1fe0000800a00004040000,
    0x2000000000000000000000040000,
    0x800002003fc1c60000000300004040000,
    0x800002003fdffe0000000300004040010,
    0x800002001000060000000000000040000,
    0x800002001000040000000000000040000,
    0x800002003fc1fe0000000300004040000,
    0x800002001001c60000000000000040000,
    0x800002001001860000000000000040000,
    0x800002001001060000000000000040000,
    0x800002003fc7fe0000000300004040000,
    0x800002001781c60000000000000040000,
    0x800002001000000000000000000040000,
    0x800002183ffffe0000800b20804800010,
    0x800000003ff1fe0000800a00804000010,
    0x800002183ffffe0000800b20804000010,
    0x800000003ff1fe0000800a00004040010,
    0x800002183ffffe0000800b20004040010,
    0xa00000003ff1fe0000800a00005040100,
    0x800002183ffffe0000800b20000800010,
    0x800002183ffffe0000800b20000000010]

/-- The tokens that a reader looks for, by the number of the reading mode. -/
def lexicalModes : List Nat :=
  [
    0x500cf98dffffffffec0db70803800397,
    0x100c318c00e000000c0cb70803800397,
    0x100c318dffffefffec0cb70803800392,
    0x500c318c00e01000000c120001800392,
    0x100c318c00e01000000c160002800382,
    0x100c318dffffe000080cb70803800393,
    0x1000000000000003f90800000082,
    0x1a00000000000004000000000000,
    0x1c00000000000008000000000000,
    0x11000000000000000000000000000,
    0x7800000000000000000000000000,
    0x9000000000000000000000000000,
    0x500c100000000000000c820000800012,
    0x23181ffffe0000800b60803800392,
    0x1000000000000014080000000000,
    0x1000000000000028080000000000]

end ScriptDeps.Grammar
