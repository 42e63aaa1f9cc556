namespace ScriptDeps.Grammar

/-! # The states of the parser

A code has, lowest first: ten bits for the number of its goto code, four for its reading mode, a bit
that says that reserved words are no names here, and a spare bit; then for every group of tokens
that are treated alike twelve bits for what to do and twelve for the number of the set of tokens.
What to do is a plain shift to the state of that number below `2048`, else a cell of the table.
-/

/-- The codes by state. State `0` is the one in which errors are passed over; parsing starts in
state `1`. -/
def stateCodes : List Nat :=
  [
    0x18010008000000,
    0x2c02b02b02a02a02902902802802602702500180102602402502302402202302102202002101f02001e01f01d01e01c01d01b01c01a01b01901a01801901701801601701501601401501301401201301101201001100f01000e00f00d00e00c00d00b00c00a00b00900a0080090070080060070050060040050030040020030270028024401,
    0x2c02b02b02a02a02902902802802602702500180102602402502302402202302102202002101f02001e01f01d01e01c01d01b01c01a01b01901a01801901701801601701501601401501301401201301101201001100f01000e00f00d00e00c00d00b00c00a00b00900a0080090070080060070050060040050030030270028034402,
    0x2b02a00180103480503304702204602104502004403204303104200d04100c00a03000900900702f80400604002e03f02d03e0803,
    0x3c05a03b05903a05802b02a02a02903902602905703805502702500180102602402502302402203705402302102202002105302001e01f01d01e01c01d01b01c05201b01901a01801901701801601701501601401501301401201301101201001100f01000e00f00d00e00c00d05100c00a00b00900a05000900700800600700503604f03504e00600402d04d00504c0030560c04,
    0x180101f4a401e4a303e06503d80600606402d0630030664405,
    0x180101106a0406,
    0x180101c06e03f06d00606c00306f4407,
    0x180103480503304701c06e03204303104203f06d00606c04080400306f4808,
    0x180101c06e03f06d00606c00306f4408,
    0x180101c06e03f06d00606c00306f4409,
    0x2b02a02a02902902802802602780d00180102680c04402202580b04380a03480502302103304702207a02107902007801f01d01e01c01d80901c80803204301b01903104201180700d07700c07600707500607404280404107300307b480a,
    0x180101106a040b,
    0x180101106a040c,
    0x180101108100d080040d,
    0x2b02a02a0890294a70283a00274a600180102639f0255d102439e0370870234a50225dd0210860204c201f57501e57401d5ce01c4a201b39d0450850115cc00d0840074c10064c0041083003088500e,
    0x180104680e4400,
    0x180101106a040f,
    0x2c5d402b02a02a0290290280280260270250018010260240250230240220230210226d30215d00205cf01f01d01e01c01d01b01c01a01b01901a0180190170180160170150160140150130140120135cd01201001100f0105cb00f00d00e5ca00d5c900c00a00b00900a5c80090070085c70070050064a10055c60035d34410,
    0x18010060930411,
    0x18010470950030964400,
    0x18010470970030984400,
    0x18010470990400,
    0x2b02a02a02902902802802602702500180102602402502302402202302102207a02107902007801f01d01e01c01d01b01c01a01b01904709a01100f00d07700707500607404107300307b4412,
    0x2b02a02a02902902802802602702500180102602402502302402202302102207a02107902007801f01d01e01c01d01b01c01a01b01901100f00d07700707500607404107300307b4413,
    0x2b02a02a02902902802802602702500180102602402502302402202302102207a02107902007801f01d01e01c01d01b01c01a01b01901100f00d07700707504880f00607402d09f04107300307b5414,
    0x2b02a02a0890294a70283a00274a600180102639f0255d102439e0370540234a50225dd0210860204c201f57501e57401d5ce0490a201c4a201b39d0115cc00d0840074c10350a10064c00410830030885015,
    0x180104b0aa04a0a90030ab5816,
    0x180104c0af01e0ae1c17,
    0x180104d0b001f0ae2018,
    0x180104e0b20060b10030b34419,
    0x18010348050330470220b803204303104201181005080404f0b60030b9481a,
    0x18010110b702d0bb0030bc441b,
    0x2b02a02a4a802968002802602702500180102664702502302464602302102207a0213ab02007801f01d01e01c03e0be01d5ce01c01a01b64501100f00d3aa0070750060740413a90034c3441c,
    0x2b02a02a02902902802802602702500180102602402502302402202302102207a02107902007801f01d01e01c01d01b01c01a01b01901100f00d07700707500607404107300307b441d,
    0x510c30018012400,
    0x2b02a02a02902902802802602702500180102602402502302402202302102207a02107902007801f01d01e01c01d01b01c01a01b01901100f00d07700707500607404107300307b441e,
    0x530c60270c50018010520c7281f,
    0x18010548111400,
    0x18010348120330c90320c80310420558110800,
    0x18010560ca0400,
    0x18010320c80578111400,
    0x18010030cb4420,
    0x18010348050330470320430310420558040800,
    0x18010028130400,
    0x18010588144400,
    0x18010590cf03e0ce0110cd0421,
    0x18010588154400,
    0x18010348120320c80578110800,
    0x650d20018010260e10640e00630df0620de0430dd0610dc0600db05f0da05e0d905d0d805c0d70590d603e0ce01c0d505b0ca0470d10110cd0350d405a0d31422,
    0x270250018010590e303e0ce01c0d50668161423,
    0x18010548161400,
    0x18010680e601d6890670e80060e51824,
    0x270250018010698161423,
    0x18010340e90800,
    0x18010320c80400,
    0x18010470d10400,
    0x180106a8170c00,
    0x18010330ea0400,
    0x2c02b02b02a02a02902902802802602702500180102602402502302402202302102202002101f02001e01f01d01e01c01d01b01c01a01b01901a01801901701801601701501601401501301401201301101201001100f01000e00f00d00e00c00d00b00c00a00b00900a0080090070080060070050060040050030030270028034425,
    0x2b02a0018010200ed0050ec0426,
    0x2c02b02b02a02a02902902802802602702500180102602402502302402202302102202002101f02001e01f01d01e01c01d01b01c01a01b01901a01801901701801601701501601401501301401201301101201001100f01000e00f00d00e00c00d00b00c00a00b00900a0080090070080060070050060040050030030270028184425,
    0x180106c0f006b0ef0427,
    0x2b02a02a0290290280280260270250018010260240250230240220230210220200210f402001e01f01d01e01c01d01b01c01a01b01901100f00d0f300c00a00b00900a0f200900700707500607406d07300307b4428,
    0x180101f5aa01e5a90360f90350f806e0fb4429,
    0x180100c0760400,
    0x2c02b02b02a02a02902902802802602702500180102602402502302402202302102202002101f02001e01f01d01e01c01d01b01c01a01b01901a01801901701801601701501601401501301401201301101201001100f01000e00f00d00e00c00d00b00c00a00b00900a008009007008006007005006004005003003027442a,
    0x2b02a02a02902902802802602702500180102602402502302402202302102207a02107902007801f01d01e01c01d01b01c01a01b01901100f00d07700707500607404107300307b442b,
    0x18010030fe4400,
    0x18010220ff0400,
    0x180102d1000031014400,
    0x2b02a02a02902902802802602702500180102602402502302402202302102207a02107902007801f01d01e01c01d01b01c01a01b01901100f00d07700707500657204107300307b442c,
    0x180106c0f00427,
    0x180104710406c0f00427,
    0x18010588194400,
    0x2b02a0018010201050426,
    0x2b02a00180103480503304702204602104502004403210703181b01181a00d04100c00a03000900900703610606f80400604002e03f02d03e082d,
    0x7110c00180101f5aa01e5a901c10b07010a042e,
    0x3c11103b05903a11002b02a07105e00180103705402110f01f5aa01e5a901c10e07381c0064be02d04d07210d0c2f,
    0x7511600180103281f07481e05881d5400,
    0x180103480503304701c06e03210703181b01181a03f06d03610600606c07680400306f4830,
    0x2b02a02a02902902802802602780d00180102680c04402202580b04380a03480502302103304702207a02107902007801f01d01e01c01d80901c80803210701b01903181b01182000d07700c07600707503610600607404280404107300307b4831,
    0x2b02a02a0890294a70283a00274a600180102639f0255d102439e0370540234a50225dd0210860204c201f57501e57401d5ce0490a201c4a201b39d0115cc00d0840074c10350a10064c00410830030885032,
    0x3c11b07110c0018010348050330470220b801f5aa01e5a901c82303210703181b01182203610607880402d82107711800311a0833,
    0x2b02a02a1200294a70283a00274a600180102639f0255d102439e0234a50225dd02111e0204c201f57501e57401d5ce01c4a201b39d0115cc00d11d0074c10064c004111c00311f4434,
    0x18010318250118240508111400,
    0x18010348120330c903212403181b0118260361060508110835,
    0x18010560ca0798250400,
    0x3c12607110c00180103480503304702112501f5aa01e5a901c82303210703181b01181a03610607880402d82107a10a0836,
    0x3c12607110c00180102112501f5aa01e5a901c10b02d11907a10a042e,
    0x7110c00180103480503304701f5aa01e5a901c82303210703181b01181a03610607680407010a0836,
    0x18010361280351270437,
    0x180103212a0400,
    0x180103612c03512b0438,
    0x180103112e0110b70439,
    0x2c02b02b02a02a02902902802802602702500180102602402502302402202302102202002101f02001e01f01d01e01c01d01b01c01a01b01901a01801901701801601701501601401501301401201301101201001100f01000e00f00d00e00c00d00b00c00a00b00900a0080090070080060070050361300060040050030030274425,
    0x7d13707c13603b13503a13402b02a0711380018010211330200ed01f5aa01e5a901c10b02d13200513107b10a0c3a,
    0x180103612c03512b043b,
    0x1801036128035127043c,
    0x180106b13b0400,
    0x180101f5aa01e5a903613d03513c02e13f00313e443d,
    0x7e1410018010400,
    0x180106c8270351420400,
    0x180106c0f0043e,
    0x180106c8270400,
    0x1801047144008145043f,
    0x2b02a02a3a10294a70283a00274a600180102639f0255d102439e0234a50225dd0214540204c201f57501e57401d5ce01c57301b39d0115cc00d4530074c10065860414520033ac4440,
    0x2c02b02b02a02a02902902802802602702500180102602402502302402202302102202002101f02001e01f01d01e01c01d01b01c01a01b01901a01801901701801601701501601401501301401201301101201001100f01000e00f00d00e00c00d00b00c00a00b00900a0080090070080060070050060040050030030274441,
    0x7114a00180103708701f5aa01e5a901c10e0361490351270064be0701481042,
    0x180103214b07f8280443,
    0x2b02a02a3b20296800283a00274a60018010266470255d10246460370870235760225dd0213b00204c201f57501e57401d5ce04914e01c5a801b6450115cc00d3af0074c103514d0065ae0413ae0033b15044,
    0x180103214b07f8290445,
    0x18010471500351510446,
    0x18010471530351510447,
    0x18010471550351510448,
    0x18010348050330470320430578040800,
    0x3c15b03b05903a15a02b02a07105e00180103705402115901f5aa01e5a901c10e03615803504e0064be02d04d0721570c49,
    0x180103e06503d8060400,
    0x180101c06e03f06d00606c00306f444a,
    0x2b02a02a02902902802802602780d00180102680c04402202580b04380a03480502302103304702207a02107902007801f01d01e01c01d80901c80803204301b01901180700d07700707500607408080404107300307b480a,
    0x180104e0b20060b100315d4419,
    0x180103480503304702215e03204301181008180404f0b60030b9481a,
    0x18010110b702d15f003160441b,
    0x18010348120330c90320c80578110800,
    0x18010260e10590d603e0ce01c0d50110cd08282a1421,
    0x2b02a0018010201610426,
    0x2c02b02b02a02a02902902802802602702500180102602402502302402202302102202002101f02001e01f01d01e01c01d01b01c01a01b01901a01801901701801601701501601401501301401201301101201001100f01000e00f00d00e00c00d00b00c00a00b00900a008009007008006007005006004005003003027444b,
    0x1801006163044c,
    0x1801011165044d,
    0x2b02a02a16f0294a70283a00274a600180102639f0255d102439e0234a50225dd02116d0204c201f57501e57401d5ce01c5c101b39d0120100115cc00d16c00c16b00b16a00a1690091680074c10065c206d16700316e444e,
    0x2c02b02b02a02a02902902802802602702500180102602402502302402202302102202002101f02001e01f01d01e01c01d01b01c01a01b01901a01801901701801601701501601401501301401201301101201001100f01000e00f00d00e00c00d00b00c00a00b00900a008009007008006007005006004005003003027444f,
    0x18010348050333a703282c08482b0838040800,
    0x2b02a02a3a10294a70283a002783300180102683204439e0258310438300348050234a50333a70225dd0214540204c201f57501e57401d82f01c82e03282c01b39d01182d00d4530074c108482b0065860858040414520033ac4850,
    0x18010868340400,
    0x18010348050333a70225fa03282c01181008482b08780404f4d90034da4851,
    0x2b02a02a3de0296800283a00274a60018010266470255d10246460235760225dd0213dc0204c201f57501e57401d5ce01c5a801b6450115cc00d3db0074c10065ae0413da0033dd4452,
    0x18010348120333bf0328360848350838110800,
    0x18010328360848350838111400,
    0x655e50018010263ce0643cd0633cc0623cb0433ca0613c90603c805f3c705e3c605d3c505c3c40594e403e4e201c5e705b3c00451760114e10353c305a3c21453,
    0x18010451780351770454,
    0x18010348120328360848350838110800,
    0x18010328360848370400,
    0x18010451760400,
    0x180103217a0451780351770454,
    0x18010888370400,
    0x2c02b02b02a02a02902902802802602702500180102602402502302402202302102202002101f02001e01f01d01e01c01d01b01c01a01b01901a01801901701801601701501601401501301401201301101201001100f01000e00f00d00e00c00d00b00c00a00b00900a0080090070080060070050060040050030030274455,
    0x180101317c0400,
    0x2c02b02b02a02a02902902802802602702500180102602402502302402202302102202002101f02001e01f01d01e01c01d01b01c01a01b01901a01801901701801601701501601401501301401201301101201001100f01000e00f00d00e00c00d00b00c00a00b00900a00800900700800600700503617d0060040050030030274456,
    0x180108a17f08917e0588384457,
    0x18010588394400,
    0x18010471820400,
    0x180105883a4400,
    0x18010471830400,
    0x180105883b4400,
    0x180105883c4400,
    0x650d20018010260e10640e00630df0620de0430dd0610dc0600db05f0da05e0d905d0d805c0d70590d603e0ce01c0d505b0ca0471840110cd0350d405a0d31422,
    0x18010471840400,
    0x650d20018010260e10640e00630df0620de0430dd0610dc0600db05f0da05e0d905d0d805c0d70590d603e0ce01c0d505b0ca0471850110cd0350d405a0d31422,
    0x18010471850400,
    0x2b02a02a02902902802802602702500180102602402502302402202302102207a02107902007801f01d01e01c01d01b01c01a01b01901100f00d07700707500607404107300307b4458,
    0x650d20018010260e10640e00630df0620de0430dd0610dc0600db05f0da05e0d905d0d805c0d70590d603e0ce01c0d505b0ca0110cd08b83d05a0d31421,
    0x2b02a02a0890294a70283a00274a600180102639f0255d102439e0370540234a50225dd0210860204c201f57501e57401d5ce01c4a201b39d0115cc00d0840074c108c83e0064c00410830030885059,
    0x180103284005483f1400,
    0x655e50018010263ce0643cd0633cc0623cb0433ca0613c90603c805f3c705e3c605d3c505c3c40594e403e4e204918c01c5e705b3c00114e103518b05a3c2145a,
    0x180104918e03514d045b,
    0x180104918c03518b045c,
    0x180104918e03217a03514d045b,
    0x180104918c03518b045d,
    0x180104918e03514d045e,
    0x180108d8411800,
    0x180108f19504a1930311920064e608e194585f,
    0x180108f19503e19904a1930311920064e608e194585f,
    0x180108f19503e19904a1930064e608e194585f,
    0x180108f19504a1930064e608e194585f,
    0x18010908421400,
    0x180104c19b01e19a1c60,
    0x180104d19c01f19a2061,
    0x3c1a003b6de03a19f02b02a0711a400180102119e01f4a401e4a301c5f80121a603619d02d6dd0723d80c62,
    0x2b02a02a6480295770283a00274a60018010265400255d102453f0235ab0225dd0215710204c201f57501e57401d5ce01c4a201b53e0115cc00d47a0074c10064c004157000364f4463,
    0x180104e0b20060b10464,
    0x18010060b10465,
    0x18010548431400,
    0x18010331ab0400,
    0x2b02a02a3b20296800283a00274a60018010266470255d10246460370870235760225dd0213b00204c201f57501e57401d5ce01c5a801b6450450850115cc00d3af0074c10065ae0413ae0033b15066,
    0x18010110b702d1ac0031ad4467,
    0x18010331af0400,
    0x18010331b00400,
    0x18010110b70031b14468,
    0x18010110b70469,
    0x18010064c9046a,
    0x911410018010400,
    0x6568b0018010263ce06465f06365e06265d04365c06165b06065a05f65905e65805d65705c6560590d603e0ce01c0d505b6540110cd05a6551421,
    0x270250018010590e303e0ce01c0d50110cd092844146b,
    0x270250018010110cd093844146b,
    0x18010260e10590d603e0ce01c0d50110cd0828451421,
    0x941b60018012c00,
    0x18010590d603e0ce01c0d50110cd0958461421,
    0x18010548471400,
    0x2b02a02a3a10294a70283a00274a600180102639f0255d102439e0234a50225dd0214540204c201f57501e57401d5ce01c57301b39d0115cc00d4530074c10065860414520033ac446c,
    0x530c60271b90018010521ba286d,
    0x2b02a02a02902902802802602702500180102602402502302402202302102207a02107902007801f01d01e01c01d01b01c01a01b01901100f00d07700707500607404107300307b446e,
    0x2b02a02a02902902802802602702500180102602402502302402202302102207a02107902007801f01d01e01c01d01b01c01a01b01901100f00d07700707500657204107300307b446f,
    0x2b02a02a02902902802802602702500180102602402502302402202302102207a02107902007801f01d01e01c01d01b01c01a01b01901100f00d07700707500607404107300307b4470,
    0x180103e1bf01159506a8483071,
    0x180106a8480c00,
    0x2b02a02a3a10294a70283a00274a600180102639f0255d102439e0371c20234a50225dd0214540204c201f57501e57401d5ce01c57301b39d0451c10115cc00d4530074c103518b0065860414520033ac5072,
    0x291c70018010031c60400,
    0x291c90018010031c80400,
    0x18010548491400,
    0x180105884a4400,
    0x2b02a02a70d0296800283a00274a60018010266470255d10246460235760225dd0216c00204c201f57501e57401d5ce01c4a201b6450115cc00d6bf0074c10064c00416be0037154473,
    0x2b02a02a02902902802802602702500180102602402502302402202302102207a02107902007801f01d01e01c01d01b01c01a01b01901100f00d07700707500607404107300307b4474,
    0x2b02a02a02902902802802602702500180102602402502302402202302102207a02107902007801f01d01e01c01d01b01c01a01b01901100f00d07700707500607404107300307b4475,
    0x2b02a02a3a10294a70283a00274a600180102639f0255d102439e0234a50225dd0214540204c201f57501e57401d5ce01c57301b39d0115cc00d4530074c10065860414520033ac4476,
    0x291c900180101c1cf0031c80400,
    0x2b02a02a02902902802802602702500180102602402502302402202302102207a02107902007801f01d01e01c01d01b01c01a01b01901100f00d07700707500607404107300307b4477,
    0x2b02a02a02902902802802602702500180102602402502302402202302102207a02107902007801f01d01e01c01d01b01c01a01b01901100f00d07700707500607404107300307b4478,
    0x2b02a02a02902902802802602702500180102602402502302402202302102207a02107902007801f01d01e01c01d01b01c01a01b01901100f00d07700707500607404107300307b4479,
    0x2b02a02a02902902802802602702500180102602402502302402202302102207a02107902007801f01d01e01c01d01b01c01a01b01901100f00d07700707500607404107300307b447a,
    0x2b02a02a02902902802802602702500180102602402502302402202302102207a02107902007801f01d01e01c01d01b01c01a01b01901100f00d07700707500607404107300307b447b,
    0x2b02a02a02902902802802602702500180102602402502302402202302102207a02107902007801f01d01e01c01d01b01c01a01b01901100f00d07700707500607404107300307b447c,
    0x2b02a02a02902902802802602702500180102602402502302402202302102207a02107902007801f01d01e01c01d01b01c01a01b01901100f00d07700707500607404107300307b447d,
    0x2b02a02a02902902802802602702500180102602402502302402202302102207a02107902007801f01d01e01c01d01b01c01a01b01901100f00d07700707500607404107300307b447e,
    0x2b02a02a02902902802802602702500180102602402502302402202302102207a02107902007801f01d01e01c01d01b01c01a01b01901100f00d07700707500607404107300307b447f,
    0x2b02a02a02902902802802602702500180102602402502302402202302102207a02107902007801f01d01e01c01d01b01c01a01b01901100f00d07700707500607404107300307b4480,
    0x180105484b1400,
    0x180104784c0350d40481,
    0x291c900180101c1cf0110cd0031c80482,
    0x18010548491400,
    0x2b02a02a3a10294a70283a00274a600180102639f0255d102439e0371c20234a50225dd0214540204c201f57501e57401d5ce01c57301b39d0115cc00d4530074c10361dc0065860414520033ac5083,
    0x180104b1e004a1df0031e15884,
    0x180105484d1400,
    0x18010680e601d6890671e50060e51885,
    0x2b02a02a02902902802802602702500180102602402502302402202302102207a02107902007801f01d01e01c01d01b01c01a01b01901100f00d07700707500607404107300307b4486,
    0x2b02a02a02902902802802602702500180102602402502302402202302102207a02107902007801f01d01e01c01d01b01c01a01b01901100f00d07700707500657204107300307b4487,
    0x2c87702b87602a87502987402887302787200180102687102587002486f02386e02286d02186c02086b01f86a01e86901d86801c86701b86601a86501986401886301786201686101586001485f01385e01285d01185c01085b00f85a00e85900d85800c85700b85600a85500985400885300785200685100585000384f09684e4425,
    0x2b02a00180102204602104502004400d04100c00a03000900900702e1e90488,
    0x180104e0b20060b10031eb4489,
    0x2b8790018010978780c26,
    0x180101f5aa01e5a906e1ee448a,
    0x180101f4a401e4a3048b,
    0x751f00018010121f10400,
    0x180103480503304701c06e03204303f06d00606c09880400306f4808,
    0x2b02a02a02902902802802602780d00180102680c04402202580b04380a03480502302103304702207a02107902007801f01d01e01c01d80901c80803204301b01901180700d07700c07600707500607409980404107300307b480a,
    0x18010348050330470220b803204301181009a80404f0b60030b9481a,
    0x180105887a4400,
    0x650d20018010260e10640e00630df0620de0430dd0610dc0600db05f0da05e0d905d0d805c0d70590d603e0ce01c0d505b0ca0471f20110cd05a0d31421,
    0x2b02a0018010200ed0426,
    0x18010361f30400,
    0x180109b87b0400,
    0x18010361f30351f4048c,
    0x180107387c06b1f60400,
    0x180105887d4400,
    0x650d20018010260e10640e00630df0620de0430dd0610dc0600db05f0da05e0d905d0d805c0d70590d603e0ce01c0d505b0ca0110cd08b87e05a0d31421,
    0x180104e0b2006590048d,
    0x180102d1f90031fa4400,
    0x18010031fb4400,
    0x18010110b7048e,
    0x180105487f1400,
    0x650d20018010260e10640e00630df0620de0430dd0610dc0600db05f0da05e0d905d0d805c0d70590d603e0ce01c0d505b0ca0110cd08b87f05a0d31421,
    0x18010588804400,
    0x18010031fd4400,
    0x18010328820548811400,
    0x2b02a02a02902902802802602702500180102602402502302402202302102207a02107902007801f01d01e01c01d01b01c01a01b01901100f00d07700707500607404107300307b448f,
    0x18010361ff03512b043b,
    0x1801036200035127043c,
    0x18010118830400,
    0x2b02a02a3a10294a70283a00274a600180102639f0255d102439e0234a50225dd0214540204c201f57501e57401d5ce01c57301b39d0115cc00d4530074c10065860414520033ac4490,
    0x18010110b70491,
    0x18010322030798830738840400,
    0x2b02a02a4590294a70283a00274a600180102639f0255d102439e0370870234a50225dd0214570204c201f57501e57401d5ce0493eb01c5c401b39d0115cc00d4560074c103514d0065c50414550034585092,
    0x3c12607110c00180101f5aa01e5a901c10b03220307988307388402d11909c10a042e,
    0x3c12607110c00180102112501f5aa01e5a901c10b03220307988307388402d11907a10a042e,
    0x7110c00180101f5aa01e5a901c10b03220307988307388407010a042e,
    0x18010738850400,
    0x18010322040400,
    0x18010738860400,
    0x7d13707c13603b13503a13402b02a07113800180102113301f5aa01e5a901c10b02d13207210a0c3a,
    0x180109d8874400,
    0x655e50018010263ce0643cd0633cc0623cb0433ca0613c90603c805f3c705e3c605d3c505c3c40594e403e4e204920501c5e705b3c00114e103518b05a3c2145a,
    0x18010331ab0118830400,
    0x7120600180101f5aa01e5a901c10b07010a0493,
    0x18010331af0118830400,
    0x712060018010331ab01f5aa01e5a901c10b01188307010a0493,
    0x18010348050333a70323a609e8880838040800,
    0x2b02a02a3a10294a70283a002783300180102683204439e0258310438300348050234a50333a70225dd0214540204c201f57501e57401d82f01c82e0323a601b39d01182d00d4530074c109e8880065860858040414520033ac4850,
    0x18010348050333a70225fa0323a601181009e88808780404f4d90034da4851,
    0x18010348120333bf0323be09e8890838110800,
    0x18010323be09e8890838111400,
    0x655e50018010263ce0643cd0633cc0623cb0433ca0613c90603c805f3c705e3c605d3c505c3c40594e403e4e201c5e705b3c00114e108488a05a3c21494,
    0x18010348120323be09e8890838110800,
    0x18010323be09e88b0400,
    0x2b02a02a02902902802802602702500180102602402502302402202302102207a02107902007801f01d01e01c01d01b01c01a01b01901100f00d07700707500607404107300307b4495,
    0x3c20907120600180101f5aa01e5a901c10b01188302d20809c10a0493,
    0x7120600180101f5aa01e5a901c10b01188307010a0493,
    0x7114a00180103708701f5aa01e5a901c10e07388c0064be07020a1096,
    0x180109f88d0400,
    0x180103620b035127043c,
    0x2b02a02a02902902802802602702500180102602402502302402202302102207a02107902007801f01d01e01c01d01b01c01a01b01901100f00d07700707500607404107300307b4497,
    0x3c21003b05903a20f02b02a0712110018010371c202120e01f5aa01e5a901c10b07388e02d04d07220d0c98,
    0x180105488f1400,
    0x180103621203512b043b,
    0x2b02a02a0890294a70283a00274a600180102639f0255d102439e0370870234a50225dd0210860204c201f57501e57401d5ce01c4a201b39d0115cc00d0840074c10064c00410830030885099,
    0x1801006093049a,
    0x7521700180109d8874400,
    0x2b02a00180102204602104502004401188300d04100c00a03000900900702e1e90488,
    0x7121800180101f5aa01e5a901c10b07010a049b,
    0x7d21b07c21a07121c00180101f5aa01e5a901c10b01188302d21909c10a049c,
    0x7d22007c21f07122100180102121e01f5aa01e5a901c10b01188302d21d07a10a049d,
    0x7d22507c22407122600180102122301f5aa01e5a901c10b02d22207a10a049e,
    0x7122700180101f5aa01e5a901c10b01188307010a049f,
    0x7122800180101f5aa01e5a901c10b01188307010a04a0,
    0x18010110b704a1,
    0x1801036886035890043b,
    0x1801036885035891043c,
    0x180100322a4400,
    0x180103622b0400,
    0x180106c8920400,
    0x180107389406b8930400,
    0x180106b22c0400,
    0x180103622b03522d04a2,
    0x18010548951400,
    0x180100606402d06304a3,
    0x7523000180101223100814504a4,
    0x18010588964400,
    0x180100623304a5,
    0x18010472350400,
    0x18010588974400,
    0x180103220303188303623603512704a6,
    0x18010a081f0400,
    0x18010312370400,
    0x2b02a02a02902902802802602702500180102602402502302402202302102207a02107902007801f01d01e01c01d01b01c01a01b01901100f00d07700707500607404107300307b44a7,
    0x180107f8980400,
    0x2b02a02a3b20296800283a00274a60018010266470255d10246460370870235760225dd0213b00204c201f57501e57401d5ce01c5a801b6450115cc00d3af0074c108c8990065ae0413ae0033b150a8,
    0x18010a08400400,
    0x180107f89a0400,
    0x180105889b4400,
    0x180101c06e03f06d00606c00306f44a9,
    0x180104723a03515104aa,
    0x180105889c4400,
    0x180104723c03515104aa,
    0x180105889d4400,
    0x180104723d03515104aa,
    0x180103220307988303610603504e0435,
    0x180103281f05481e1400,
    0x3c12607110c00180101f5aa01e5a901c10b03220307988303610603504e02d11909c10a0436,
    0x3c12607110c00180102112501f5aa01e5a901c10b03220307988303610603504e02d11907a10a0436,
    0x7110c00180101f5aa01e5a901c10b03220307988303610603504e07010a0436,
    0x180104723e03515104ab,
    0x180104e0b20060b104ac,
    0x18010110b702d2420032434467,
    0x18010110b70032444468,
    0x18010110b704ad,
    0x180104e0b20060b10032464489,
    0x18010a22470a189e44ae,
    0x18010a324b03624a02e24904af,
    0x180105889f4400,
    0x2b02a02a6f20296800283a00274a60018010266470255d10246460235760225dd0216f00204c201f57501e57401d5ce01c5c101b6450115cc00d5fe0a416b00a24e00924d0074c10065c206d6ef0036f144b0,
    0x2c02b02b02a02a02902902802802602702500180102602402502302402202302102202002101f02001e01f01d01e01c01d01b01c01a01b01901a01801901701801601701501601401501301401201301101201001100f01000e00f00d00e00c00d00b00c00a00b00900a00800900700800600700500600400500300302744b1,
    0x18010348050333a70323a60568a003f2500a58040800,
    0x180101c06e03f06d00606c00325144b2,
    0x18010348050333a701c06e0323a60568a003f25200606c0a680400325348b3,
    0x180101c06e03f25400606c00325344b3,
    0x180101c06e03f25500606c00325644b4,
    0x2b02a02a3a10294a70283a002783300180102683204439e0258310438300348050234a50333a70225dd0214540204c201f57501e57401d82f01c82e0323a601b39d0568a001182d03f25000d45300c2570074c10065860a78040414520033ac4850,
    0x18010348050333a70225fa0323a60568a001181003f2500a880404f4d90034da4851,
    0x18010348120333bf0323be0568a103f2580a58110800,
    0x18010323be0568a103f2580a58111400,
    0x2b02a02a3a10294a70283a00274a600180102639f0255d102439e0234a50225dd0214540204c201f57501e57401d5ce01c57301b39d0120100115cc00d4530074c10065860414520033ac44b5,
    0x18010348120323be0568a103f2580a58110800,
    0x655e50018010263ce0643cd0633cc0623cb0433ca0613c90603c805f3c705e3c605d3c505c3c40594e403e4e201c5e705b3c001225c0114e10353c305a3c21453,
    0x18010323be0a92580400,
    0x180101225c0400,
    0x18010588a24400,
    0x18010aa8a30800,
    0x2b02a02a3b20296800283a00274a60018010266470255d10246460370870235760225dd0213b00204c201f57501e57401d5ce01c5a801b64504525d0115cc00d3af0074c10065ae0413ae0033b150b6,
    0x18010868a40400,
    0x180104525d03526004b7,
    0x2b02a02a3a10294a70283a00274a600180102639f0255d102439e0234a50225dd0214540204c201f57501e57401d5ce01c57301b39d0115cc00d4530074c10065860414520033ac44b8,
    0x18010588a54400,
    0x18010115d904b9,
    0x7511600180109d81d4400,
    0x180101126400609304ba,
    0x180100609304bb,
    0x180108a17f0588a644bc,
    0x18010588a74400,
    0x18010588a84400,
    0x18010588a94400,
    0x18010588aa4400,
    0x18010588ab4400,
    0x650d20018010260e10640e00630df0620de0430dd0610dc0600db05f0da05e0d905d0d805c0d70590d603e0ce01c0d505b0ca0110cd08b8ac05a0d31421,
    0x655e50018010263ce0643cd0633cc0623cb0433ca0613c90603c805f3c705e3c605d3c505c3c40594e403e4e201c5e705b3c00114e10ab8ad05a3c21494,
    0x180108c8ae0400,
    0x18010ab8ad0400,
    0x180103217a08c8ae0400,
    0x2b02a02a3a10294a70283a00274a600180102639f0255d102439e0371c20234a50225dd0214540204c201f57501e57401d5ce01c57301b39d0115cc00d4530074c10ab8af0065860414520033ac50bd,
    0x18010548b01400,
    0x180104926803518b045d,
    0x180109f8b10400,
    0x180104926903514d045e,
    0x18010ac8ad0358b2045d,
    0x18010498ae0358b3045e,
    0x180108e26a5800,
    0x180108d8b41800,
    0x180103226b0311920ad8b55800,
    0x18010548b61400,
    0x18010ad8b75800,
    0x180103226c0ad8b85800,
    0x180108f26e04a26d0064e608e19458be,
    0x18010032704400,
    0x18010908b91400,
    0x180104c8bb01e8ba1c60,
    0x180104d8bd01f8bc2061,
    0x18010ae8be5400,
    0x3c6ec0715f900180101f5aa01e5a901c10b0af88302d6e909c10a04bf,
    0x3c3e10712720018010213e001f4a401e4a301c5f80af8830065b102d6e907a3d804c0,
    0x715f900180101f5aa01e5a901c10b0af88307010a04bf,
    0x18010472730400,
    0x18010b08bf0c00,
    0x18010128c00b18bf0c00,
    0x180103214b0478c10110b704c1,
    0x7d3e707c3e603b6ee03a27502b02a0712760018010213e501f4a401e4a301c5f802d6ed0723d80cc2,
    0x3c1a003b6de03a19f02b02a0711a400180102119e01f4a401e4a301c5f801227803627702d6dd0723d80cc3,
    0x656ca0018010263ce06455106355006254f04354e06154d06054c05f54b05e54a05d54905c5480594e403e4e201c5e705b5460114e10068c205a5471494,
    0x18010060b104c4,
    0x7527a0018010748c40588c35400,
    0x18010548c51400,
    0x2b02a02a02902902802802602702500180102602402502302402202302102207a02107902007801f01d01e01c01d01b01c01a01b01901100f00d07700707500657204107300307b44c5,
    0x18010110b700327d44c6,
    0x18010110b704c7,
    0x18010064c904c8,
    0x2b02a02a02902902802802602702500180102602402502302402202302102207a02107902007801f01d01e01c01d01b01c01a01b01901100f00d07700707500657204107300307b44c9,
    0x2b02a02a02902902802802602702500180102602402502302402202302102207a02107902007801f01d01e01c01d01b01c01a01b01901100f00d07700707500657204107300307b44ca,
    0x18010110b704cb,
    0x18010064c904cc,
    0x18010064c904cd,
    0x18010548c61400,
    0x18010548c71400,
    0xb22880018010578c83400,
    0x655e50018010263ce0643cd0633cc0623cb0433ca0613c90603c805f3c705e3c605d3c505c3c40594e403e4e201c5e705b3c00114e10362890353c305a3c21453,
    0x18010362890400,
    0x18010548c91400,
    0x538cc0278cb0018010528ca286d,
    0x650d20018010260e10640e00630df0620de0430dd0610dc0600db05f0da05e0d905d0d805c0d70590d603e0ce01c0d505b0ca0110cd08b8cd05a0d31421,
    0x18010548ce1400,
    0x650d20018010260e10640e00630df0620de0430dd0610dc0600db05f0da05e0d905d0d805c0d70590d603e0ce01c0d505b0ca0110cd08b8ce05a0d31421,
    0x18010260e10620de0430dd05e0d90590d603e0ce01c0d50110cd0b38cf05a0d31421,
    0x180100328a4400,
    0x180106a8d00c00,
    0x18010548d11400,
    0x2b02a02a3a10294a70283a00274a600180102639f0255d102439e0234a50225dd0214540204c201f57501e57401d5ce01c57301b39d0115cc00d4530074c10065860414520033ac44ce,
    0x655e50018010263ce0643cd0633cc0623cb0433ca0613c90603c805f3c705e3c605d3c505c3c40594e403e4e201c5e705b3c004528b0114e103518b05a3c214cf,
    0x180104528b03518b04d0,
    0x180104528b03518b045d,
    0x18010aa8d20800,
    0x18010aa8d30800,
    0x18010aa8d40800,
    0x18010aa8d50800,
    0x6568b0018010263ce06465f06365e06265d04365c06165b06065a05f65905e65805d65705c6560594e403e4e201c5e703128d05b6540114e105a6551494,
    0x18010260e10620de0590d603e0ce01c0d50110cd0b48cf1421,
    0x650d20018010260e10640e00630df0620de0430dd0610dc0600db05f0da05e0d905d0d805c0d70590d603e0ce01c0d505b0ca0110cd07f8d605a0d31421,
    0x655e50018010263ce0643cd0633cc0623cb0433ca0613c90603c805f3c705e3c605d3c505c3c40594e403e4e204928e01c5e705b3c00114e10353c305a3c21453,
    0x180104928e0400,
    0x2b02a02a3a10294a70283a00274a600180102639f0255d102439e0234a50225dd0214540204c201f57501e57401d5ce01c57301b39d0115cc00d4530074c10065860414520033ac44d1,
    0x18010260e10630df0620de0430dd0610dc0600db05f0da05e0d90590d603e0ce01c0d505b0ca0110cd0b58cf05a0d31421,
    0x18010260e10630df0620de0430dd0610dc0600db05f0da05e0d905c0d70590d603e0ce01c0d505b0ca0110cd0b68cf05a0d31421,
    0x18010260e10620de0430dd0590d603e0ce01c0d50110cd0b78cf05a0d31421,
    0x18010260e10630df0620de0430dd05e0d90590d603e0ce01c0d505b0ca0110cd0b88cf05a0d31421,
    0x18010260e10630df0620de0430dd05f0da05e0d90590d603e0ce01c0d505b0ca0110cd0b98cf05a0d31421,
    0x18010260e10630df0620de0430dd0600db05f0da05e0d90590d603e0ce01c0d505b0ca0110cd0ba8cf05a0d31421,
    0x18010260e10620de0590d603e0ce01c0d50110cd0bb8cf05a0d31421,
    0x18010260e10620de0590d603e0ce01c0d50110cd0b48cf1421,
    0x18010260e10620de0430dd05e0d90590d603e0ce01c0d505b0ca0110cd0bc8cf05a0d31421,
    0x18010260e10630df0620de0430dd0610dc0600db05f0da05e0d905d0d805c0d70590d603e0ce01c0d505b0ca0110cd0bd8cf05a0d31421,
    0x18010478d60358d70481,
    0x18010548d81400,
    0x180108d8d91800,
    0x655e50018010263ce0643cd0633cc0623cb0433ca0613c90603c805f3c705e3c605d3c505c3c40594e403e4e201c5e705b3c00114e10362910353c305a3c21453,
    0x18010362910400,
    0x18010548da1400,
    0x180104a2920311920400,
    0x180103e19904a2920311920400,
    0x180103e19904a2920400,
    0x180104a2920400,
    0x18010548db1400,
    0x18010688df01d8de0678dd0068dc18d2,
    0x650d20018010260e10640e00630df0620de0430dd0610dc0600db05f0da05e0d905d0d805c0d70590d603e0ce01c0d505b0ca0110cd08b8e005a0d31421,
    0x18010548e11400,
    0x650d20018010260e10640e00630df0620de0430dd0610dc0600db05f0da05e0d905d0d805c0d70590d603e0ce01c0d505b0ca0110cd08b8e105a0d31421,
    0x2b02a02a0290290280280260270250018010260240250230240220230210220200210f402001e01f01d01e01c01d01b01c01a01b01901100f00d0f300c00a00b00900a0f200900700707500607406d07300307b44d3,
    0x18010588e24400,
    0x180104e0b20060b104d4,
    0x18010060b104d5,
    0x18010548e31400,
    0x180106c8e40400,
    0x18010be8e50400,
    0x18010588e64400,
    0x18010588e64400,
    0x18010588e74400,
    0x180109b8e80400,
    0x180101f5aa01e5a903629806e0fb44d6,
    0x180103629803529a04d7,
    0x180101f5aa01e5a906e29c44d8,
    0x180100659004d9,
    0x7527a0018010588c34400,
    0x180100329e4400,
    0x18010110b704da,
    0x18010110b704db,
    0x18010065c304dc,
    0x180104e0b200659004dd,
    0x650d20018010260e10640e00630df0620de0430dd0610dc0600db05f0da05e0d905d0d805c0d70590d603e0ce01c0d505b0ca04787e0110cd0368ea0358e905a0d31421,
    0x18010548eb1400,
    0x180109f8ec0400,
    0x655e50018010263ce0643cd0633cc0623cb0433ca0613c90603c805f3c705e3c605d3c505c3c40594e403e4e20492a401c5e705b3c00114e105a3c21494,
    0x180100609304de,
    0x2b02a02a3a10294a70283a00274a600180102639f0255d102439e0234a50225dd0214540204c201f57501e57401d5ce01c57301b39d0115cc00d4530074c10065860414520033ac44df,
    0x2b02a02a3a10294a70283a00274a600180102639f0255d102439e0234a50225dd0214540204c201f57501e57401d5ce01c57301b39d0115cc00d4530074c10065860414520033ac44e0,
    0x18010318ee0118ed0508b01400,
    0x18010110b704e1,
    0x650d20018010260e10640e00630df0620de0430dd0610dc0600db05f0da05e0d905d0d805c0d70590d603e0ce01c0d505b0ca0478cd0110cd0368ea0358ef05a0d31421,
    0x712a900180101f5aa01e5a901c10b07010a04e2,
    0x712a900180101f5aa01e5a901c10b01188307010a04e2,
    0x18010322030318830738f00400,
    0x180109f8f10400,
    0x650d20018010260e10640e00630df0620de0430dd0610dc0600db05f0da05e0d905d0d805c0d70590d603e0ce01c0d505b0ca0478cd0110cd0368f30358f205a0d31421,
    0x18010798830738f40400,
    0x3c12607110c00180101f5aa01e5a901c10b0798830738f402d11909c10a042e,
    0x3c12607110c00180102112501f5aa01e5a901c10b0798830738f402d11907a10a042e,
    0x7110c00180101f5aa01e5a901c10b0798830738f407010a042e,
    0x18010312aa0110b70439,
    0x18010548f51400,
    0x655e50018010263ce0643cd0633cc0623cb0433ca0613c90603c805f3c705e3c605d3c505c3c40594e403e4e201c5e705b3c00114e10738f605a3c21494,
    0x18010738f70400,
    0x180103217a0738f70400,
    0x18010bf8f80c00,
    0x180109d8f94400,
    0x18010110b704e3,
    0x712ac00180101f5aa01e5a901c10b07010a04e4,
    0x712ad00180101f5aa01e5a901c10b01188307010a04e5,
    0x712ae00180101f5aa01e5a901c10b01188307010a04e6,
    0x18010110b704e7,
    0x712b000180101f5aa01e5a901c10b07010a04e8,
    0x7d2b307c2b20712b400180101f5aa01e5a901c10b01188302d2b109c10a04e9,
    0x712b500180101f5aa01e5a901c10b01188307010a04ea,
    0x712b600180101f5aa01e5a901c10b01188307010a04eb,
    0x18010110b704ec,
    0x712b800180101f5aa01e5a901c10b07010a04ed,
    0x7d2bb07c2ba0712bc00180101f5aa01e5a901c10b01188302d2b909c10a04ee,
    0x712bd00180101f5aa01e5a901c10b01188307010a04ef,
    0x712be00180101f5aa01e5a901c10b01188307010a04f0,
    0x18010110b704f1,
    0x18010110b704f2,
    0x18010110b704f3,
    0x180100609304f4,
    0x180106c8fa0400,
    0x180106c8fb0400,
    0x18010032c34400,
    0x180101f5aa01e5a90362c402e13f00313e44f5,
    0x18010362c40352c604f6,
    0x180106c8fc0400,
    0x18010588fd4400,
    0x18010588fd4400,
    0x752c80018010122c90400,
    0x3c2ce03b05903a2cd02b02a0712110018010371c20212cc01f5aa01e5a901c10b0362cb03512b02d04d0722ca0cf7,
    0x18010478fe0400,
    0x18010588ff4400,
    0x18010a08820400,
    0x2b02a02a3b20296800283a00274a60018010266470255d10246460370870235760225dd0213b00204c201f57501e57401d5ce01c5a801b6450115cc00d3af0074c10065ae0413ae0033b150f8,
    0x650d20018010260e10640e00630df0620de0430dd0610dc0600db05f0da05e0d905d0d805c0d70590d603e0ce01c0d505b0ca0110cd07f90005a0d31421,
    0x180107f9010400,
    0x18010589024400,
    0x180104790103590304aa,
    0x18010589044400,
    0x18010589054400,
    0x18010589064400,
    0x18010472cf03515104aa,
    0x18010060b104f9,
    0x18010548c41400,
    0x18010110b70032d144c6,
    0x18010110b704fa,
    0x18010110b704fb,
    0x18010064c904fc,
    0x180104e0b20060b104fd,
    0x2c02b02b02a02a02902902802802602702500180102602402502302402202302102202002101f02001e01f01d01e01c01d01b01c01a01b01901a01801901701801601701501601401501301401201301101201001100f01000e00f00d00e00c00d00b00c00a00b00900a00800900700800600700500600400500300302744fe,
    0x18010589074400,
    0x18010312d80400,
    0x18010589084400,
    0x2b02a02a3a10294a70283a00274a600180102639f0255d102439e0234a50225dd0214540204c201f57501e57401d5ce01c57301b39d0115cc00d4530074c10065860414520033ac44ff,
    0x18010a324b0362db02e2490500,
    0x180101c4bf0064be0032dd4501,
    0x180103480503364b01c90903264a0568a003f2de00606c0c080400325648b4,
    0x180105890a4400,
    0x2b02a02a3a10294a70283a00274a600180102639f0255d102439e0234a50225dd0214540204c201f57501e57401d5ce01c57301b39d0115cc00d4530074c10065860414520033ac4502,
    0x18010324f00a92e107f8290503,
    0x7590b02b02a02a3a10294a70283a00274a600180102639f0255d102439e0234a50225dd0214540204c201f57501e57401d5ce01c57303214b01b39d0115cc0a92e400d4530074c10c18280065860414520033ac4504,
    0x7590c00180103214b0a92e10c18290445,
    0x7590b00180103214b0a92e40c18280443,
    0x752e30018010a92e40400,
    0x752e50018010a92e10400,
    0x180101c06e03f2e600606c0032e74505,
    0x2b02a02a3a10294a70283a00274a600180102639f0255d102439e0234a50225dd0214540204c201f57501e57401d5ce01c57301b39d0115cc00d4530074c10065860414520033ac4506,
    0x2b02a02a3a10294a70283a00274a600180102639f0255d102439e0234a50225dd0214540204c201f57501e57401d5ce01c57301b39d0452ea0115cc00d4530074c10065860414520033ac4507,
    0x655e50018010263ce0643cd0633cc0623cb0433ca0613c90603c805f3c705e3c605d3c505c3c40594e403e4e201c5e705b3c00122ed0114e10353c305a3c21453,
    0x18010122ed0400,
    0x2b02a02a3a10294a70283a00274a600180102639f0255d102439e0234a50225dd0214540204c201f57501e57401d5ce01c57301b39d0120100115cc00d4530074c10065860414520033ac4508,
    0x180108690d0400,
    0x18010c290e0400,
    0x180103217a0c290e0400,
    0x2b02a02a3b20296800283a00274a60018010266470255d10246460370870235760225dd0213b00204c201f57501e57401d5ce01c5a801b6450452f10115cc00d3af0074c10065ae0413ae0033b150b6,
    0x180104590e03590f04b7,
    0x655e50018010263ce0643cd0633cc0623cb0433ca0613c90603c805f3c705e3c605d3c505c3c40594e403e4e201c5e705b3c00114e108491005a3c21494,
    0x18010472f30c39114400,
    0x180101c4bf0064be0032f44509,
    0x18010c49124400,
    0x18010589134400,
    0x18010589144400,
    0x18010549151400,
    0x180109f9160400,
    0x18010c59175800,
    0x180101f2f601e2f501d6c80064e6050a,
    0x180101f2f601e2f501d6c80064e6050b,
    0x180108d9181800,
    0x18010549191400,
    0x18010c691c00691b08e91a58be,
    0x18010c791d5800,
    0x18010b091e0c00,
    0x180103214b04791f0110b7050c,
    0x18010b09200c00,
    0x18010479210400,
    0x7d42707c4260712fa00180102142501f4a401e4a301c5f80af88302d6fd07a3d8050d,
    0x180103214b0479220110b7050e,
    0x18010ae9235400,
    0x3c93003b92f03a92e02b92d07192c00180102192b01f92a01e92901c92801292703692602d9250729240cc3,
    0x752fc0018010749320589315400,
    0x18010589334400,
    0x18010549341400,
    0x650d20018010260e10640e00630df0620de0430dd0610dc0600db05f0da05e0d905d0d805c0d70590d603e0ce01c0d505b0ca0110cd08b93405a0d31421,
    0x18010110b7050f,
    0x18010064c90510,
    0x18010064c90511,
    0x18010549351400,
    0x18010549361400,
    0x650d20018010260e10640e00630df0620de0430dd0610dc0600db05f0da05e0d905d0d805c0d70590d603e0ce01c0d505b0ca0110cd08b93605a0d31421,
    0x18010549371400,
    0x650d20018010260e10640e00630df0620de0430dd0610dc0600db05f0da05e0d905d0d805c0d70590d603e0ce01c0d505b0ca0110cd08b93705a0d31421,
    0x18010064c90512,
    0x18010549381400,
    0x7530100180107493a0589395400,
    0x180105493b1400,
    0x18010c893c2800,
    0x18010c993d3000,
    0x180105493e1400,
    0x180104530203518b045d,
    0x2b02a02a02902902802802602702500180102602402502302402202302102207a02107902007801f01d01e01c01d01b01c01a01b01901100f00d07700707500607404107300307b4513,
    0x18010aa93f0800,
    0x655e50018010263ce0643cd0633cc0623cb0433ca0613c90603c805f3c705e3c605d3c505c3c40594e403e4e204930401c5e705b3c00114e10353c305a3c21453,
    0x18010493040400,
    0x180108d9401800,
    0x18010549411400,
    0x18010589424400,
    0x650d20753050018010260e10640e00630df0620de0430dd0610dc0600db05f0da05e0d905d0d805c0d70590d603e0ce01c0d505b0ca0123060110cd05a0d31421,
    0x18010060b10514,
    0x753080018010749440589435400,
    0x18010549451400,
    0x180109b9460400,
    0x18010739470400,
    0x180101f5aa01e5a903630906e0fb44d6,
    0x180103694703594804d7,
    0x18010739490400,
    0x752fc0018010589314400,
    0x18010110b70515,
    0x18010065c30516,
    0x18010065c30517,
    0x753010018010589394400,
    0x18010065900518,
    0x753080018010589434400,
    0x18010798ee0400,
    0x18010bf94a0c00,
    0x655e50018010263ce0643cd0633cc0623cb0433ca0613c90603c805f3c705e3c605d3c505c3c40594e403e4e201c5e705b3c00114e10738ea05a3c21494,
    0x655e50018010263ce0643cd0633cc0623cb0433ca0613c90603c805f3c705e3c605d3c505c3c40594e403e4e201c5e705b3c00114e10738f305a3c21494,
    0x18010060930519,
    0x18010110b7051a,
    0x2b02a02a3a10294a70283a00274a600180102639f0255d102439e0234a50225dd0214540204c201f57501e57401d5ce01c57301b39d0115cc00d4530074c10065860414520033ac451b,
    0x1801006093051c,
    0x18010110b7051d,
    0x18010110b7051e,
    0x18010110b7051f,
    0x18010060930520,
    0x18010110b70521,
    0x7131700180101f5aa01e5a901c10b07010a0522,
    0x7131800180101f5aa01e5a901c10b01188307010a0523,
    0x7131900180101f5aa01e5a901c10b01188307010a0524,
    0x18010110b70525,
    0x18010110b70526,
    0x18010110b70527,
    0x18010060930528,
    0x18010110b70529,
    0x7131f00180101f5aa01e5a901c10b07010a052a,
    0x7132000180101f5aa01e5a901c10b01188307010a052b,
    0x7132100180101f5aa01e5a901c10b01188307010a052c,
    0x18010110b7052d,
    0x18010110b7052e,
    0x18010110b7052f,
    0x18010060930530,
    0x18010060930531,
    0x18010060930532,
    0x18010bf94b0c00,
    0x180107394c0400,
    0x180106c94d0400,
    0x180107394e0400,
    0x180101f5aa01e5a903632802e13f00313e44f5,
    0x180103694e03594f04f6,
    0x18010589504400,
    0x18010589504400,
    0x180107988303632a03512b0533,
    0x180104781e0400,
    0x3c12607110c00180101f5aa01e5a901c10b07988303632a03512b02d11909c10a0534,
    0x3c12607110c00180102112501f5aa01e5a901c10b07988303632a03512b02d11907a10a0534,
    0x7110c00180101f5aa01e5a901c10b07988303632a03512b07010a0534,
    0x18010589514400,
    0x18010549321400,
    0x18010110b70535,
    0x18010064c90536,
    0x18010064c90537,
    0x180105493a1400,
    0x18010060b10538,
    0x18010549441400,
    0x18010589524400,
    0x2c02b02b02a02a02902902802802602702500180102602402502302402202302102202002101f02001e01f01d01e01c01d01b01c01a01b01901a01801901701801601701501601401501301401201301101201001100f01000e00f00d00e00c00d00b00c00a00b00900a0080090070080060070050060040ca9530050030030274539,
    0x655e50018010263ce0643cd0633cc0623cb0433ca0613c90603c805f3c705e3c605d3c505c3c40594e403e4e201c5e703133005b3c00114e10353c305a3c21453,
    0x18010313300400,
    0x18010589544400,
    0x18010a395703695602e9550500,
    0x18010323ea0a92e1053a,
    0x752e302b02a02a3a10294a70283a00274a600180102639f0255d102439e0234a50225dd0214540204c201f57501e57401d5ce01c57301b39d0115cc0a92e400d4530074c10065860414520033ac4502,
    0x655e50018010263ce0643cd0633cc0623cb0433ca0613c90603c805f3c705e3c605d3c505c3c40594e403e4e201c5e705b3c00453320114e10353c305a3c21453,
    0x18010453320400,
    0x2b02a02a3a10294a70283a00274a600180102639f0255d102439e0234a50225dd0214540204c201f57501e57401d5ce01c57301b39d0115cc00d4530074c10065860414520033ac453b,
    0x180105633603f33507f89a0400,
    0x18010a93370400,
    0x2b02a02a3a10294a70283a00274a600180102639f0255d102439e0234a50225dd0214540204c201f57501e57401d5ce01c57301b39d0115cc00d4530074c10065860414520033ac453c,
    0x18010a933a0400,
    0x7533b0018010a933c0400,
    0x7533d0018010a933e0400,
    0x655e50018010263ce0643cd0633cc0623cb0433ca0613c90603c805f3c705e3c605d3c505c3c40594e403e4e201c5e705b3c004533f0114e10353c305a3c21453,
    0x180104533f0400,
    0x2c02b02b02a02a02902902802802602702500180102602402502302402202302102202002101f02001e01f01d01e01c01d01b01c01a01b01901a01801901701801601701501601401501301401201301101201001100f01000e00f00d00e00c00d00b00c00a00b00900a008009007008006007005006004005003003027453d,
    0x655e50018010263ce0643cd0633cc0623cb0433ca0613c90603c805f3c705e3c605d3c505c3c40594e403e4e201c5e705b3c00453410114e10353c305a3c21453,
    0x18010453410400,
    0x2b02a02a3a10294a70283a00274a600180102639f0255d102439e0234a50225dd0214540204c201f57501e57401d5ce01c57301b39d0453420115cc00d4530074c10065860414520033ac453e,
    0x2b02a02a3a10294a70283a00274a600180102639f0255d102439e0234a50225dd0214540204c201f57501e57401d5ce01c57301b39d0453450115cc00d4530074c10065860414520033ac453f,
    0x655e50018010263ce0643cd0633cc0623cb0433ca0613c90603c805f3c705e3c605d3c505c3c40594e403e4e201c5e705b3c00123480114e10353c305a3c21453,
    0x18010123480400,
    0x18010869580400,
    0x2b02a02a3b20296800283a00274a60018010266470255d10246460370870235760225dd0213b00204c201f57501e57401d5ce01c5a801b6450115cc00d3af0074c10065ae0413ae0033b150b6,
    0x18010589594400,
    0x18010453490400,
    0x180101e34a0cb34b3940,
    0x180101f34a0cc34c3d41,
    0x18010ad95a5800,
    0x18010ad95b5800,
    0x180104795c0400,
    0x180103214b04795d0110b70542,
    0x180104795e0400,
    0x180105895f4400,
    0x18010064c90543,
    0x18010549601400,
    0x7534f0018010749620589615400,
    0x753500018010749640589635400,
    0x18010589654400,
    0x18010549661400,
    0x650d20018010260e10640e00630df0620de0430dd0610dc0600db05f0da05e0d905d0d805c0d70590d603e0ce01c0d505b0ca0110cd08b96705a0d31421,
    0x18010aa9680800,
    0x18010589694400,
    0x18010589694400,
    0x7535100180107496b05896a5400,
    0x180105896c4400,
    0x180109b96d0400,
    0x180101f5aa01e5a906e0fb44d6,
    0x18010065c30544,
    0x7534f0018010589614400,
    0x753500018010589634400,
    0x7535100180105896a4400,
    0x18010bf96e0c00,
    0x18010060930545,
    0x18010bf96f0c00,
    0x18010060930546,
    0x18010060930547,
    0x18010060930548,
    0x18010bf96f0c00,
    0x18010060930549,
    0x18010110b7054a,
    0x18010110b7054b,
    0x18010110b7054c,
    0x1801006093054d,
    0x1801006093054e,
    0x1801006093054f,
    0x18010bf96f0c00,
    0x18010060930550,
    0x18010110b70551,
    0x18010110b70552,
    0x18010110b70553,
    0x18010060930554,
    0x18010060930555,
    0x18010060930556,
    0x18010bf96f0c00,
    0x18010bf96f0c00,
    0x18010bf96f0c00,
    0x180106c9700400,
    0x180101f5aa01e5a902e13f00313e44f5,
    0x18010478810400,
    0x18010064c90557,
    0x18010549621400,
    0x18010549641400,
    0x180105496b1400,
    0x2c02b02b02a02a02902902802802602702500180102602402502302402202302102202002101f02001e01f01d01e01c01d01b01c01a01b01901a01801901701801601701501601401501301401201301101201001100f01000e00f00d00e00c00d00b00c00a00b00900a0080090070080060070050060040ca9710050030030274425,
    0x2c02b02b02a02a02902902802802602702500180102602402502302402202302102202002101f02001e01f01d01e01c01d01b01c01a01b01901a01801901701801601701501601401501301401201301101201001100f01000e00f00d00e00c00d00b00c00a00b00900a0080090070080060070050060040ca9720050030030274558,
    0x180105633603f3350400,
    0x18010cd9734400,
    0x655e50018010263ce0643cd0633cc0623cb0433ca0613c90603c805f3c705e3c605d3c505c3c40594e403e4e201c5e705b3c00453670114e10353c305a3c21453,
    0x18010453670400,
    0x2b02a02a3a10294a70283a00274a600180102639f0255d102439e0234a50225dd0214540204c201f57501e57401d5ce01c57301b39d0115cc00d4530074c10065860414520033ac4559,
    0x2b02a02a3a10294a70283a00274a600180102639f0255d102439e0234a50225dd0214540204c201f57501e57401d5ce01c57301b39d0115cc00d4530074c10065860414520033ac455a,
    0x2b02a02a3a10294a70283a00274a600180102639f0255d102439e0234a50225dd0214540204c201f57501e57401d5ce01c57301b39d0115cc00d4530074c10065860414520033ac455b,
    0x655e50018010263ce0643cd0633cc0623cb0433ca0613c90603c805f3c705e3c605d3c505c3c40594e403e4e201c5e705b3c004536e0114e10353c305a3c21453,
    0x180104536e0400,
    0x2b02a02a3a10294a70283a00274a600180102639f0255d102439e0234a50225dd0214540204c201f57501e57401d5ce01c57301b39d0115cc00d4530074c10065860414520033ac455c,
    0x18010a93710400,
    0x2b02a02a3a10294a70283a00274a600180102639f0255d102439e0234a50225dd0214540204c201f57501e57401d5ce01c57301b39d0115cc00d4530074c10065860414520033ac455d,
    0x18010a93740400,
    0x2b02a02a3a10294a70283a00274a600180102639f0255d102439e0234a50225dd0214540204c201f57501e57401d5ce01c57301b39d0115cc00d4530074c10065860414520033ac455e,
    0x18010cd9744400,
    0x18010589754400,
    0x2c02b02b02a02a02902902802802602702500180102602402502302402202302102202002101f02001e01f01d01e01c01d01b01c01a01b01901a01801901701801601701501601401501301401201301101201001100f01000e00f00d00e00c00d00b00c00a00b00900a008009007008006007005006004005003003027455f,
    0x2c02b02b02a02a02902902802802602702500180102602402502302402202302102202002101f02001e01f01d01e01c01d01b01c01a01b01901a01801901701801601701501601401501301401201301101201001100f01000e00f00d00e00c00d00b00c00a00b00900a0080090070080060070050060040050030030274560,
    0x655e50018010263ce0643cd0633cc0623cb0433ca0613c90603c805f3c705e3c605d3c505c3c40594e403e4e201c5e705b3c00453790114e10353c305a3c21453,
    0x18010453790400,
    0x2c02b02b02a02a02902902802802602702500180102602402502302402202302102202002101f02001e01f01d01e01c01d01b01c01a01b01901a01801901701801601701501601401501301401201301101201001100f01000e00f00d00e00c00d00b00c00a00b00900a0080090070080060070050060040050030030274561,
    0x655e50018010263ce0643cd0633cc0623cb0433ca0613c90603c805f3c705e3c605d3c505c3c40594e403e4e201c5e705b3c004537b0114e10353c305a3c21453,
    0x180104537b0400,
    0x2b02a02a3a10294a70283a00274a600180102639f0255d102439e0234a50225dd0214540204c201f57501e57401d5ce01c57301b39d04537c0115cc00d4530074c10065860414520033ac4562,
    0x18010060930563,
    0x18010ad9765800,
    0x180101e3800cb3813964,
    0x180101f3800cc3823d65,
    0x18010479770400,
    0x753830018010749790589785400,
    0x180105897a4400,
    0x180105897b4400,
    0x180105897c4400,
    0x753830018010589784400,
    0x18010bf97d0c00,
    0x18010bf97e0c00,
    0x18010bf97e0c00,
    0x18010bf97e0c00,
    0x18010bf97e0c00,
    0x18010060930566,
    0x18010060930567,
    0x18010060930568,
    0x18010bf97e0c00,
    0x18010bf97e0c00,
    0x18010bf97e0c00,
    0x18010bf97e0c00,
    0x18010060930569,
    0x1801006093056a,
    0x1801006093056b,
    0x18010bf97e0c00,
    0x18010bf97e0c00,
    0x18010bf97e0c00,
    0x18010549791400,
    0x2c02b02b02a02a02902902802802602702500180102602402502302402202302102202002101f02001e01f01d01e01c01d01b01c01a01b01901a01801901701801601701501601401501301401201301101201001100f01000e00f00d00e00c00d00b00c00a00b00900a0080090070080060070050060040ca97f0050030030274425,
    0x18010cd9804400,
    0x655e50018010263ce0643cd0633cc0623cb0433ca0613c90603c805f3c705e3c605d3c505c3c40594e403e4e201c5e705b3c004538a0114e10353c305a3c21453,
    0x180104538b0400,
    0x655e50018010263ce0643cd0633cc0623cb0433ca0613c90603c805f3c705e3c605d3c505c3c40594e403e4e201c5e705b3c004538c0114e10353c305a3c21453,
    0x180104538d0400,
    0x655e50018010263ce0643cd0633cc0623cb0433ca0613c90603c805f3c705e3c605d3c505c3c40594e403e4e201c5e705b3c004538e0114e10353c305a3c21453,
    0x180104538e0400,
    0x18010cd9814400,
    0x655e50018010263ce0643cd0633cc0623cb0433ca0613c90603c805f3c705e3c605d3c505c3c40594e403e4e201c5e705b3c004538f0114e10353c305a3c21453,
    0x180104538f0400,
    0x2b02a02a3a10294a70283a00274a600180102639f0255d102439e0234a50225dd0214540204c201f57501e57401d5ce01c57301b39d0115cc00d4530074c10065860414520033ac456c,
    0x655e50018010263ce0643cd0633cc0623cb0433ca0613c90603c805f3c705e3c605d3c505c3c40594e403e4e201c5e705b3c00453920114e10353c305a3c21453,
    0x18010453920400,
    0x2b02a02a3a10294a70283a00274a600180102639f0255d102439e0234a50225dd0214540204c201f57501e57401d5ce01c57301b39d0115cc00d4530074c10065860414520033ac456d,
    0x655e50018010263ce0643cd0633cc0623cb0433ca0613c90603c805f3c705e3c605d3c505c3c40594e403e4e201c5e705b3c00453950114e10353c305a3c21453,
    0x18010453950400,
    0x18010589824400,
    0x18010589834400,
    0x2c02b02b02a02a02902902802802602702500180102602402502302402202302102202002101f02001e01f01d01e01c01d01b01c01a01b01901a01801901701801601701501601401501301401201301101201001100f01000e00f00d00e00c00d00b00c00a00b00900a008009007008006007005006004005003003027456e,
    0x18010589844400,
    0x2c02b02b02a02a02902902802802602702500180102602402502302402202302102202002101f02001e01f01d01e01c01d01b01c01a01b01901a01801901701801601701501601401501301401201301101201001100f01000e00f00d00e00c00d00b00c00a00b00900a008009007008006007005006004005003003027456f,
    0x2c02b02b02a02a02902902802802602702500180102602402502302402202302102202002101f02001e01f01d01e01c01d01b01c01a01b01901a01801901701801601701501601401501301401201301101201001100f01000e00f00d00e00c00d00b00c00a00b00900a0080090070080060070050060040050030030274570,
    0x655e50018010263ce0643cd0633cc0623cb0433ca0613c90603c805f3c705e3c605d3c505c3c40594e403e4e201c5e705b3c00453990114e10353c305a3c21453,
    0x18010453990400,
    0x18010c49854400,
    0x18010ad9865800,
    0x180101e9880cb9873964,
    0x180101f98a0cc9893d65,
    0x180105898b4400,
    0x18010bf98c0c00,
    0x18010bf98c0c00,
    0x18010bf98c0c00,
    0x18010bf98c0c00,
    0x18010bf98c0c00,
    0x18010bf98c0c00,
    0x18010cd98d4400,
    0x18010cd98d4400,
    0x18010cd98d4400,
    0x18010cd98d4400,
    0x18010cd98e4400,
    0x18010cd98f4400,
    0x655e50018010263ce0643cd0633cc0623cb0433ca0613c90603c805f3c705e3c605d3c505c3c40594e403e4e201c5e705b3c004539a0114e10353c305a3c21453,
    0x180104539a0400,
    0x18010cd9904400,
    0x655e50018010263ce0643cd0633cc0623cb0433ca0613c90603c805f3c705e3c605d3c505c3c40594e403e4e201c5e705b3c004539b0114e10353c305a3c21453,
    0x180104539b0400,
    0x18010cd9914400,
    0x18010589924400,
    0x18010589934400,
    0x18010589944400,
    0x2c02b02b02a02a02902902802802602702500180102602402502302402202302102202002101f02001e01f01d01e01c01d01b01c01a01b01901a01801901701801601701501601401501301401201301101201001100f01000e00f00d00e00c00d00b00c00a00b00900a0080090070080060070050060040050030030274571,
    0x18010cd9954400,
    0x18010cd9964400,
    0x18010589974400,
    0x2b02a02a3a10294a70283a00274a600180102639f0255d102439e0234a50225dd0214540204c201f57501e57401d5ce01c57301b39d0115cc00d4530074c10ce80f00658602d3b40414520033ac5572,
    0x2b02a02a3a10294a70283a00274a600180102639f0255d102439e0234a50225dd0214540204c201f57501e57401d5ce01c57301b39d0115cc00d4530074c10065860414520033ac4573,
    0x2b02a02a3a10294a70283a00274a600180102639f0255d102439e0234a50225dd0214540204c201f57501e57401d5ce01c57301b39d0115cc00d4530074c10065860414520033ac4574,
    0x18010cf8111400,
    0x18010323be0d08111400,
    0x18010348120323be0d08110800,
    0x274a60018010594e503e4e201c5e70d18161575,
    0x18010cf8161400,
    0x274a60018010d28161575,
    0x2b02a02a3a10294a70283a00274a600180102639f0255d102439e0234a50225dd0214540204c201f57501e57401d5ce01c57301b39d0115cc00d4530074c10065860414520033ac4576,
    0x2b02a02a3a10294a70283a00274a600180102639f0255d102439e0234a50225dd0214540204c201f57501e57401d5ce01c57301b39d0115cc00d4530074c10065a70414520033ac4577,
    0x7511600180103281f0d481d0d381e1400,
    0x180103480503304703264a0578040800,
    0x2b02a02a70d0296800283a002783300180102699a0446460258310439990348050235760330470225dd0216c00204c201f57501e57401d82f01c99803264a01b64501182d00d6bf0074c10064c00808040416be0037154978,
    0x180103480503304702215e03264a01181008180404f0b60030b9481a,
    0x18010348120333bf0323be0d08110800,
    0x18010263ce0594e403e4e201c5e70114e10d582a1494,
    0x180103480503364b03299c08499b0838040800,
    0x2b02a02a70d0296800283a002783300180102699a04464602583104399903480502357603364b0225dd0216c00204c201f57501e57401d82f01c99803299c01b64501182d00d6bf0074c108499b0064c00858040416be0037154978,
    0x180103480503364b0225fa03299c01181008499b08780404f6850036864979,
    0x180103481203365303299d0848370838110800,
    0x180103299d0848370838111400,
    0x180103481203299d0848370838110800,
    0x2b02a02a3a10294a70283a00274a600180102639f0255d102439e0234a50225dd0214540204c201f57501e57401d5ce01c57301b39d0115cc00d4530074c10065860414520033ac457a,
    0x655e50018010263ce0643cd0633cc0623cb0433ca0613c90603c805f3c705e3c605d3c505c3c40594e403e4e201c5e705b3c00114e10d683d05a3c21494,
    0x180103284008499e0d783f1400,
    0x18010d88420400,
    0x18010cf8431400,
    0x274a60018010594e503e4e201c5e70114e10d9844157b,
    0x274a60018010114e10da844157b,
    0x18010263ce0594e403e4e201c5e70114e10d58451494,
    0x18010594e403e4e201c5e70114e10db8461494,
    0x18010cf8471400,
    0x2b02a02a3a10294a70283a00274a600180102639f0255d102439e0234a50225dd0214540204c201f57501e57401d5ce01c57301b39d0115cc00d4530074c10065860414520033ac457c,
    0x2b02a02a3a10294a70283a00274a600180102639f0255d102439e0234a50225dd0214540204c201f57501e57401d5ce01c57301b39d0115cc00d4530074c10065a70414520033ac457d,
    0x2b02a02a3a10294a70283a00274a600180102639f0255d102439e0234a50225dd0214540204c201f57501e57401d5ce01c57301b39d0115cc00d4530074c10065860414520033ac457e,
    0x18010cf8491400,
    0x2b02a02a3a10294a70283a00274a600180102639f0255d102439e0234a50225dd0214540204c201f57501e57401d5ce01c57301b39d0115cc00d4530074c10065860414520033ac457f,
    0x2b02a02a3a10294a70283a00274a600180102639f0255d102439e0234a50225dd0214540204c201f57501e57401d5ce01c57301b39d0115cc00d4530074c10065860414520033ac4580,
    0x2b02a02a3a10294a70283a00274a600180102639f0255d102439e0234a50225dd0214540204c201f57501e57401d5ce01c57301b39d0115cc00d4530074c10065860414520033ac4581,
    0x2b02a02a3a10294a70283a00274a600180102639f0255d102439e0234a50225dd0214540204c201f57501e57401d5ce01c57301b39d0115cc00d4530074c10065860414520033ac4582,
    0x2b02a02a3a10294a70283a00274a600180102639f0255d102439e0234a50225dd0214540204c201f57501e57401d5ce01c57301b39d0115cc00d4530074c10065860414520033ac4583,
    0x2b02a02a3a10294a70283a00274a600180102639f0255d102439e0234a50225dd0214540204c201f57501e57401d5ce01c57301b39d0115cc00d4530074c10065860414520033ac4584,
    0x2b02a02a3a10294a70283a00274a600180102639f0255d102439e0234a50225dd0214540204c201f57501e57401d5ce01c57301b39d0115cc00d4530074c10065860414520033ac4585,
    0x2b02a02a3a10294a70283a00274a600180102639f0255d102439e0234a50225dd0214540204c201f57501e57401d5ce01c57301b39d0115cc00d4530074c10065860414520033ac4586,
    0x2b02a02a3a10294a70283a00274a600180102639f0255d102439e0234a50225dd0214540204c201f57501e57401d5ce01c57301b39d0115cc00d4530074c10065860414520033ac4587,
    0x2b02a02a3a10294a70283a00274a600180102639f0255d102439e0234a50225dd0214540204c201f57501e57401d5ce01c57301b39d0115cc00d4530074c10065860414520033ac4588,
    0x2b02a02a3a10294a70283a00274a600180102639f0255d102439e0234a50225dd0214540204c201f57501e57401d5ce01c57301b39d0115cc00d4530074c10065860414520033ac4589,
    0x2b02a02a3a10294a70283a00274a600180102639f0255d102439e0234a50225dd0214540204c201f57501e57401d5ce01c57301b39d0115cc00d4530074c10065860414520033ac458a,
    0x18010cf84b1400,
    0x18010dc84c0353c3058b,
    0x18010cf8491400,
    0x18010cf84d1400,
    0x2b02a02a3a10294a70283a00274a600180102639f0255d102439e0234a50225dd0214540204c201f57501e57401d5ce01c57301b39d0115cc00d4530074c10065860414520033ac458c,
    0x2b02a02a3a10294a70283a00274a600180102639f0255d102439e0234a50225dd0214540204c201f57501e57401d5ce01c57301b39d0115cc00d4530074c10065a70414520033ac458d,
    0x655e50018010263ce0643cd0633cc0623cb0433ca0613c90603c805f3c705e3c605d3c505c3c40594e403e4e201c5e705b3c00114e10d687e05a3c21494,
    0x18010cf87f1400,
    0x655e50018010263ce0643cd0633cc0623cb0433ca0613c90603c805f3c705e3c605d3c505c3c40594e403e4e201c5e705b3c00114e10d687f05a3c21494,
    0x180103288208499f0d78811400,
    0x18010af8830400,
    0x18010ae8875400,
    0x180103480503364b03264a0849a00838040800,
    0x2b02a02a70d0296800283a002783300180102699a04464602583104399903480502357603364b0225dd0216c00204c201f57501e57401d82f01c99803264a01b64501182d00d6bf0074c10849a00064c00858040416be0037154978,
    0x180103480503364b0225fa03264a0118100849a008780404f6850036864979,
    0x180103481203365303265208488b0838110800,
    0x180103265208488b0838111400,
    0x180103481203265208488b0838110800,
    0x3c6f907161700180101f5aa01e5a901c10b0af88302d6f809c10a058e,
    0x7161700180101f5aa01e5a901c10b0af88307010a058e,
    0x18010a088d0400,
    0x18010cf88f1400,
    0x754240018010dd8875400,
    0x7d6fc07c6fb07161900180101f5aa01e5a901c10b0af88302d6fa09c10a058f,
    0x7161b00180101f5aa01e5a901c10b0af88307010a0590,
    0x7161c00180101f5aa01e5a901c10b0af88307010a0591,
    0x18010cf8951400,
    0x18010de81f0400,
    0x2b02a02a7130296c10283a00274a600180102668e0256c902468d0237120225dd0216cd0204c201f57501e57401d5ce01c4a201b68c0115cc00d6cc0074c10064c00416cb0037174592,
    0x18010de8400400,
    0x18010322030798830363d703504e0593,
    0x180103281f0849a10d781e1400,
    0x3c12607110c00180101f5aa01e5a901c10b0322030798830363d703504e02d11909c10a0594,
    0x3c12607110c00180102112501f5aa01e5a901c10b0322030798830363d703504e02d11907a10a0594,
    0x7110c00180101f5aa01e5a901c10b0322030798830363d703504e07010a0594,
    0x18010cd8a34400,
    0x753d90018010dd81d5400,
    0x655e50018010263ce0643cd0633cc0623cb0433ca0613c90603c805f3c705e3c605d3c505c3c40594e403e4e201c5e705b3c00114e10d68ac05a3c21494,
    0x18010cf8b01400,
    0x18010a08b10400,
    0x18010cf8b61400,
    0x18010d88b90400,
    0x18010cf8be1400,
    0x7527a0018010d48c30d38c41400,
    0x18010cf8c51400,
    0x2b02a02a3a10294a70283a00274a600180102639f0255d102439e0234a50225dd0214540204c201f57501e57401d5ce01c57301b39d0115cc00d4530074c10065a70414520033ac4595,
    0x2b02a02a3a10294a70283a00274a600180102639f0255d102439e0234a50225dd0214540204c201f57501e57401d5ce01c57301b39d0115cc00d4530074c10065a70414520033ac4596,
    0x2b02a02a3a10294a70283a00274a600180102639f0255d102439e0234a50225dd0214540204c201f57501e57401d5ce01c57301b39d0115cc00d4530074c10065a70414520033ac4597,
    0x18010cf8c61400,
    0x18010cf8c71400,
    0xb24390018010df8c83400,
    0x18010cf8c91400,
    0x655e50018010263ce0643cd0633cc0623cb0433ca0613c90603c805f3c705e3c605d3c505c3c40594e403e4e201c5e705b3c00114e10d68cd05a3c21494,
    0x18010cf8ce1400,
    0x655e50018010263ce0643cd0633cc0623cb0433ca0613c90603c805f3c705e3c605d3c505c3c40594e403e4e201c5e705b3c00114e10d68ce05a3c21494,
    0x18010263ce0623cb0433ca05e3c60594e403e4e201c5e70114e10e08cf05a3c21494,
    0x18010cf8d11400,
    0x18010e18d20800,
    0x18010e18d30800,
    0x18010e18d40800,
    0x18010e18d50800,
    0x18010263ce0623cb0594e403e4e201c5e70114e10e28cf1494,
    0x655e50018010263ce0643cd0633cc0623cb0433ca0613c90603c805f3c705e3c605d3c505c3c40594e403e4e201c5e705b3c00114e10e38d605a3c21494,
    0x18010263ce0633cc0623cb0433ca0613c90603c805f3c705e3c60594e403e4e201c5e705b3c00114e10e48cf05a3c21494,
    0x18010263ce0633cc0623cb0433ca0613c90603c805f3c705e3c605c3c40594e403e4e201c5e705b3c00114e10e58cf05a3c21494,
    0x18010263ce0623cb0433ca0594e403e4e201c5e70114e10e68cf05a3c21494,
    0x18010263ce0633cc0623cb0433ca05e3c60594e403e4e201c5e705b3c00114e10e78cf05a3c21494,
    0x18010263ce0633cc0623cb0433ca05f3c705e3c60594e403e4e201c5e705b3c00114e10e88cf05a3c21494,
    0x18010263ce0633cc0623cb0433ca0603c805f3c705e3c60594e403e4e201c5e705b3c00114e10e98cf05a3c21494,
    0x18010263ce0623cb0594e403e4e201c5e70114e10ea8cf05a3c21494,
    0x18010263ce0623cb0594e403e4e201c5e70114e10e28cf1494,
    0x18010263ce0623cb0433ca05e3c60594e403e4e201c5e705b3c00114e10eb8cf05a3c21494,
    0x18010263ce0633cc0623cb0433ca0613c90603c805f3c705e3c605d3c505c3c40594e403e4e201c5e705b3c00114e10ec8cf05a3c21494,
    0x18010dc8d60359a2058b,
    0x18010cf8d81400,
    0x18010ad8d95800,
    0x18010cf8da1400,
    0x18010cf8db1400,
    0x655e50018010263ce0643cd0633cc0623cb0433ca0613c90603c805f3c705e3c605d3c505c3c40594e403e4e201c5e705b3c00114e10d68e005a3c21494,
    0x18010cf8e11400,
    0x655e50018010263ce0643cd0633cc0623cb0433ca0613c90603c805f3c705e3c605d3c505c3c40594e403e4e201c5e705b3c00114e10d68e105a3c21494,
    0x18010cf8e31400,
    0x18010cf8eb1400,
    0x18010a08ec0400,
    0x18010a08f10400,
    0x18010cf8f51400,
    0x18010ae8f95400,
    0x7d70707c70607162b00180101f5aa01e5a901c10b0af88302d70509c10a0598,
    0x7162c00180101f5aa01e5a901c10b0af88307010a0599,
    0x7162d00180101f5aa01e5a901c10b0af88307010a059a,
    0x18010de8820400,
    0x6571a0018010260e10645f10635f00625ef0435ee0615ed0605ec05f5eb05e5ea05d5e905c5e80590d603e0ce0ee5e401c0d50569a30110cd0ed90005a5e61421,
    0x18010cf8c41400,
    0x18010cf9151400,
    0x18010a09160400,
    0x18010cf9191400,
    0x18010cf9231400,
    0x752fc0018010d49310d39321400,
    0x18010cf9341400,
    0x655e50018010263ce0643cd0633cc0623cb0433ca0613c90603c805f3c705e3c605d3c505c3c40594e403e4e201c5e705b3c00114e10d693405a3c21494,
    0x18010cf9351400,
    0x18010cf9361400,
    0x655e50018010263ce0643cd0633cc0623cb0433ca0613c90603c805f3c705e3c605d3c505c3c40594e403e4e201c5e705b3c00114e10d693605a3c21494,
    0x18010cf9371400,
    0x655e50018010263ce0643cd0633cc0623cb0433ca0613c90603c805f3c705e3c605d3c505c3c40594e403e4e201c5e705b3c00114e10d693705a3c21494,
    0x18010cf9381400,
    0x753010018010d49390d393a1400,
    0x18010cf93b1400,
    0x18010cf93e1400,
    0x2b02a02a3a10294a70283a00274a600180102639f0255d102439e0234a50225dd0214540204c201f57501e57401d5ce01c57301b39d0115cc00d4530074c10065860414520033ac459b,
    0x18010e193f0800,
    0x18010ad9405800,
    0x18010cf9411400,
    0x753080018010d49430d39441400,
    0x18010cf9451400,
    0x18010af8ee0400,
    0x18010cf9321400,
    0x18010cf93a1400,
    0x18010cf9441400,
    0x18010cf9601400,
    0x7534f0018010d49610d39621400,
    0x753500018010d49630d39641400,
    0x18010cf9661400,
    0x655e50018010263ce0643cd0633cc0623cb0433ca0613c90603c805f3c705e3c605d3c505c3c40594e403e4e201c5e705b3c00114e10d696705a3c21494,
    0x18010e19680800,
    0x753510018010d496a0d396b1400,
    0x18010cf9621400,
    0x18010cf9641400,
    0x18010cf96b1400,
    0x753830018010d49780d39791400,
    0x18010cf9791400,
    0x753d900180103281f0ef81d1400,
    0x18010348050333a70323a60d08040800,
    0x2b02a02a3a10294a70283a002783300180102683204439e0258310438300348050234a50333a70225dd0214540204c201f57501e57401d82f01c82e0323a601b39d01182d00d4530074c10065860f08040414520033ac4850,
    0x18010348050333a70225fa0323a60118100f180404f4d90034da4851,
    0x18010348050333a704982b03282c03599b0838040800,
    0x2b02a02a3a10294a70283a002783300180102683204439e0258310438300348050234a50333a70225dd0214540204c201f57501e57401d82f04982b01c82e03282c01b39d01182d00d4530074c103599b0065860858040414520033ac4850,
    0x18010348050333a70225fa04982b03282c01181003599b08780404f4d90034da4851,
    0x18010348120333bf0498350328360358370838110800,
    0x18010498350328360358370838111400,
    0x18010348120498350328360358370838110800,
    0x18010328400d083f1400,
    0x18010cf8421400,
    0x180108d84d1800,
    0x18010328820d08811400,
    0x18010cf8871400,
    0x180104788f0400,
    0x7548c0018010b08870c00,
    0x180103220307988303645e03504e0593,
    0x180103281f0d081e1400,
    0x3c12607110c00180101f5aa01e5a901c10b03220307988303645e03504e02d11909c10a0594,
    0x3c12607110c00180102112501f5aa01e5a901c10b03220307988303645e03504e02d11907a10a0594,
    0x7110c00180101f5aa01e5a901c10b03220307988303645e03504e07010a0594,
    0x18010e18a30800,
    0x7545f0018010cf81d1400,
    0x180108d8b61800,
    0x18010cf8b91400,
    0x18010f28be4400,
    0xb22880018010f38c83400,
    0x180106a8d10c00,
    0x180108d8da1800,
    0x180108d8db1800,
    0x18010478eb0400,
    0x18010478f50400,
    0x18010cf8f91400,
    0x656ce0018010263ce0646a006369f06269e04369d06169c06069b05f69a05e69905d69805c6970594e403e4e20ee69501c5e70569a40114e103f90005a6961494,
    0x180108d9191800,
    0x18010f29234400,
    0x180106a93e0c00,
    0x180108d9411800,
    0x180106a9660c00,
    0x7545f00180103281f0cf81d1400,
    0x2b02a02a6480295770283a00278330018010269a704453f0258310439a60348050235ab0335420225dd0215710204c201f57501e57401d82f01c99803254101b53e01182d00d47a0074c10069a508580404157000364f499c,
    0x180108884008383f1400,
    0x18010f48420400,
    0x18010ad84d5800,
    0x18010888820838811400,
    0x18010b08870c00,
    0x180103220307988303647e03504e0593,
    0x180108881f08381e1400,
    0x3c12607110c00180101f5aa01e5a901c10b03220307988303647e03504e02d11909c10a0594,
    0x3c12607110c00180102112501f5aa01e5a901c10b03220307988303647e03504e02d11907a10a0594,
    0x7110c00180101f5aa01e5a901c10b03220307988303647e03504e07010a0594,
    0x18010f28a34400,
    0x7547f0018010b081d0c00,
    0x18010ad8b65800,
    0x18010f48b90400,
    0xb24390018010f58c83400,
    0x18010ad8da5800,
    0x18010ad8db5800,
    0x18010b08f90c00,
    0x18010ad9195800,
    0x18010ad9415800,
    0x2b02a02a70d0296800283a002783300180102699a0446460258310439990348050235760335420225dd0216c00204c201f57501e57401d82f01c99803264a01b64501182d00d6bf0074c10069a50858040416be0037154978,
    0x180105699e0f68400a583f1400,
    0x180105699f0f68820a58811400,
    0x18010f28874400,
    0x180103220307988303649103504e0593,
    0x18010569a10f681f0a581e1400,
    0x3c12607110c00180101f5aa01e5a901c10b03220307988303649103504e02d11909c10a0594,
    0x3c12607110c00180102112501f5aa01e5a901c10b03220307988303649103504e02d11907a10a0594,
    0x7110c00180101f5aa01e5a901c10b03220307988303649103504e07010a0594,
    0x7549200180105881d4400,
    0x18010f28f94400,
    0x180104999e0f784008383f1400,
    0x180104999f0f78820838811400,
    0x180103220307988303649b03504e0593,
    0x18010499a10f781f08381e1400,
    0x3c12607110c00180101f5aa01e5a901c10b03220307988303649b03504e02d11909c10a0594,
    0x3c12607110c00180102112501f5aa01e5a901c10b03220307988303649b03504e02d11907a10a0594,
    0x7110c00180101f5aa01e5a901c10b03220307988303649b03504e07010a0594,
    0x3c05a03b05903a05802b02a02a02903902602905703805502702500180102602402502302402203705402302102202002105302001e01f01d01e01c01d01b01c05201b01901a01801901701801601701501601401501301401201301101201001100f01000e00f00d00e00c00d05100c00a00b00900a0500090070080060070050363a803504e00600402d04d00504c0030560c04,
    0x2b02a02a0890294a70283a00274a600180102639f0255d102439e0370540234a50225dd0210860204c201f57501e57401d5ce0493b601c4a201b39d0115cc00d0840074c10350a10064c0041083003088519d,
    0x180104c4d401e3b71d9e,
    0x180104d4d501f3b7219f,
    0x2b02a02a70d0296800283a00274a60018010266470255d10246460234a50225dd02167f0204c201f57501e57403e4dd01d5ce01c57301b6450115cc00d67e0074c100658604167d00370f45a0,
    0x530c60273bd0018010524e029a1,
    0x18010563c00400,
    0x18010326520548111400,
    0x18010594e303e4e20114e10494,
    0x18010348120326520548110800,
    0x18010684e701d6890674e80060e519a2,
    0x18010343d20800,
    0x18010326520400,
    0x18010333d30400,
    0x2c5d402b02a02a0290290280280260270250018010260240250230240220230210226d30215d00205cf01f01d01e01c01d01b01c01a01b01901a0180190170180160170150160140150130140120135cd01201001100f0105cb00f00d00e5ca00d5c900c00a00b00900a5c80090070085c70070050064a10055c60035d345a3,
    0x2b02a00180103480503304702204602104502004403210703181b01181a00d04100c00a03000900900703645e06f80400604002e03f02d03e09a4,
    0x180103480503304701c06e03210703181b01181a03f06d03645e00606c07680400306f49a5,
    0x2b02a02a02902902802802602780d00180102680c04402202580b04380a03480502302103304702207a02107902007801f01d01e01c01d80901c80803210701b01903181b01182000d07700c07600707503645e00607404280404107300307b49a6,
    0x3c11b07110c0018010348050330470220b801f5aa01e5a901c82303210703181b01182203645e07880402d82107711800311a09a7,
    0x18010348120330c903212403181b01182603645e0508110993,
    0x3c12607110c00180103480503304702112501f5aa01e5a901c82303210703181b01181a03645e07880402d82107a10a0994,
    0x7110c00180103480503304701f5aa01e5a901c82303210703181b01181a03645e07680407010a0994,
    0x18010363e203512705a8,
    0x18010363e303512b05a9,
    0x2c02b02b02a02a02902902802802602702500180102602402502302402202302102202002101f02001e01f01d01e01c01d01b01c01a01b01901a01801901701801601701501601401501301401201301101201001100f01000e00f00d00e00c00d00b00c00a00b00900a0080090070080060070050363e40060040050030030274425,
    0x18010363e303512b043b,
    0x18010363e2035127043c,
    0x7e3e80018010400,
    0x2c5d402b02a02a0290290280280260270250018010260240250230240220230210226d30215d00205cf01f01d01e01c01d01b01c01a01b01901a0180190170180160170150160140150130140120135cd01201001100f0105cb00f00d00e5ca00d5c900c00a00b00900a5c80090070085c70070050064a10055c60035d345aa,
    0x7114a00180103708701f5aa01e5a901c10e0363e90351270064be0704ef11ab,
    0x2b02a02a3b20296800283a00274a60018010266470255d10246460370870235760225dd0213b00204c201f57501e57401d5ce0493eb01c5a801b6450115cc00d3af0074c103514d0065ae0413ae0033b151ac,
    0x3c3f003b05903a3ef02b02a07105e0018010370540213ee01f5aa01e5a901c10e0363ed03504e0064be02d04d0723ec0dad,
    0x180103e4bc03d8060400,
    0x180104e0b20064d60034f145ae,
    0x18010348120330c90326520578110800,
    0x2c5d402b02a02a0290290280280260270250018010260240250230240220230210226d30215d00205cf01f01d01e01c01d01b01c01a01b01901a0180190170180160170150160140150130140120135cd01201001100f0105cb00f00d00e5ca00d5c900c00a00b00900a5c80090070085c70070050064a10055c60035d345af,
    0x2c5d402b02a02a0290290280280260270250018010260240250230240220230210226d30215d00205cf01f01d01e01c01d01b01c01a01b01901a0180190170180160170150160140150130140120135cd01201001100f0105cb00f00d00e5ca00d5c900c00a00b00900a5c80090070085c70070050064a10055c60035d345b0,
    0x655e50018010263ce0643cd0633cc0623cb0433ca0613c90603c805f3c705e3c605d3c505c3c40594e403e4e201c5e705b3c00453f10114e10353c305a3c21453,
    0x18010453f10400,
    0x2c5d402b02a02a0290290280280260270250018010260240250230240220230210226d30215d00205cf01f01d01e01c01d01b01c01a01b01901a0180190170180160170150160140150130140120135cd01201001100f0105cb00f00d00e5ca00d5c900c00a00b00900a5c80090070085c70070050064a10055c60035d345b1,
    0x2c02b02b02a02a02902902802802602702500180102602402502302402202302102202002101f02001e01f01d01e01c01d01b01c01a01b01901a01801901701801601701501601401501301401201301101201001100f01000e00f00d00e00c00d00b00c00a00b00900a0080090070080060070050363f200600400500300302745b2,
    0x655e50018010263ce0643cd0633cc0623cb0433ca0613c90603c805f3c705e3c605d3c505c3c40594e403e4e20493f401c5e705b3c00114e103518b05a3c215b3,
    0x18010493f503514d05b4,
    0x18010493f403518b05b5,
    0x18010493f503217a03514d05b4,
    0x18010493f403518b045d,
    0x18010493f503514d045e,
    0x180108f3f604a1930311920064e608e19459b6,
    0x180108f3f603e19904a1930311920064e608e19459b6,
    0x180108f3f603e19904a1930064e608e19459b6,
    0x180108f3f604a1930064e608e19459b6,
    0x180104c19b01e3f71c60,
    0x180104d19c01f3f72061,
    0x3c1a003b6de03a19f02b02a0711a400180102119e01f4a401e4a301c5f80124f70363f802d6dd0723d80db7,
    0x180104e0b20060b105b8,
    0x18010064d605b9,
    0x18010333fb0400,
    0x18010333fc0400,
    0x18010333fd0400,
    0x180100658905ba,
    0x913e80018010400,
    0x6568b0018010263ce06465f06365e06265d04365c06165b06065a05f65905e65805d65705c6560594e403e4e201c5e705b6540114e105a6551494,
    0x944000018012c00,
    0x530c60274010018010521ba286d,
    0x2b02a02a3a10294a70283a00274a600180102639f0255d102439e0371c20234a50225dd0214540204c201f57501e57401d5ce01c57301b39d0454060115cc00d4530074c103518b0065860414520033ac51bb,
    0x294080018010034070400,
    0x2940a0018010034090400,
    0x2940a00180101c6090034090400,
    0x2940a00180101c6090114e100340905bc,
    0x2b02a02a3a10294a70283a00274a600180102639f0255d102439e0371c20234a50225dd0214540204c201f57501e57401d5ce01c57301b39d0115cc00d4530074c10364190065860414520033ac51bd,
    0x180104b50404a41a00350559be,
    0x18010684e701d6890671e50060e519bf,
    0x180103642003512b043b,
    0x1801036421035127043c,
    0x1801036422035127043c,
    0x180103642303512b043b,
    0x18010065b1049a,
    0x754990018010588874400,
    0x180103220303188303642803512705c0,
    0x2b02a02a6d70296d60280260270250018010265d202568a0246d50236d402207a0215dc02007801f01d01e01c01d01b01c01a01b6d201100f00d5db0070750060740415da0036df45c1,
    0x180104e0b20064d605c2,
    0x180104e0b20064d600350f45c3,
    0x2c5d402b02a02a0290290280280260270250018010260240250230240220230210226d30215d00205cf01f01d01e01c01d01b01c01a01b01901a0180190170180160170150160140150130140120135cd01201001100f0105cb00f00d00e5ca00d5c900c00a00b00900a5c80090070085c70070050064a10055c60035d345c4,
    0x180104942b03518b045d,
    0x180104942c03514d045e,
    0x180108f42d04a26d0064e608e19458be,
    0x3c1a003b6de03a19f02b02a0711a400180102119e01f4a401e4a301c5f801227803642e02d6dd0723d80cc3,
    0x18010060b105c5,
    0x180100658905c6,
    0x180100658905c7,
    0x18010064c905c8,
    0x655e50018010263ce0643cd0633cc0623cb0433ca0613c90603c805f3c705e3c605d3c505c3c40594e403e4e201c5e705b3c004543a0114e103518b05a3c215c9,
    0x180104543a03518b05ca,
    0x180104543a03518b045d,
    0x6568b0018010263ce06465f06365e06265d04365c06165b06065a05f65905e65805d65705c6560594e403e4e201c5e703143b05b6540114e105a6551494,
    0x655e50018010263ce0643cd0633cc0623cb0433ca0613c90603c805f3c705e3c605d3c505c3c40594e403e4e204943c01c5e705b3c00114e10353c305a3c21453,
    0x180104943c0400,
    0x655e50018010263ce0643cd0633cc0623cb0433ca0613c90603c805f3c705e3c605d3c505c3c40594e403e4e201c5e705b3c00114e103643d0353c305a3c21453,
    0x180103643d0400,
    0x180104a43e0311920400,
    0x180103e19904a43e0311920400,
    0x180103e19904a43e0400,
    0x180104a43e0400,
    0x180104e0b20060b105cb,
    0x18010064d605cc,
    0x655e50018010263ce0643cd0633cc0623cb0433ca0613c90603c805f3c705e3c605d3c505c3c40594e403e4e204944101c5e705b3c00114e105a3c21494,
    0x18010065b104de,
    0x18010065b104f4,
    0x18010064d605cd,
    0x180100658905ce,
    0x180104e0b20064d605cf,
    0x2c5d402b02a02a0290290280280260270250018010260240250230240220230210226d30215d00205cf01f01d01e01c01d01b01c01a01b01901a0180190170180160170150160140150130140120135cd01201001100f0105cb00f00d00e5ca00d5c900c00a00b00900a5c80090070085c70070050064a10055c60035d345d0,
    0x180100658905d1,
    0x18010064c905d2,
    0x18010064c905d3,
    0x180104544803518b045d,
    0x655e50018010263ce0643cd0633cc0623cb0433ca0613c90603c805f3c705e3c605d3c505c3c40594e403e4e204944a01c5e705b3c00114e10353c305a3c21453,
    0x180104944a0400,
    0x18010060b105d4,
    0x18010065b10519,
    0x18010065b1051c,
    0x18010065b10520,
    0x18010065b10528,
    0x18010065b10530,
    0x18010065b10531,
    0x18010065b10532,
    0x180100658905d5,
    0x180100658905d6,
    0x18010064d605d7,
    0x2c5d402b02a02a0290290280280260270250018010260240250230240220230210226d30215d00205cf01f01d01e01c01d01b01c01a01b01901a0180190170180160170150160140150130140120135cd01201001100f0105cb00f00d00e5ca00d5c900c00a00b00900a5c80090070085c70070050064a10055c60035d345d8,
    0x18010064c905d9,
    0x18010065b10545,
    0x18010065b10546,
    0x18010065b10547,
    0x18010065b10548,
    0x18010065b10549,
    0x18010065b1054d,
    0x18010065b1054e,
    0x18010065b1054f,
    0x18010065b10550,
    0x18010065b10554,
    0x18010065b10555,
    0x18010065b10556,
    0x180100658905da,
    0x2c5d402b02a02a0290290280280260270250018010260240250230240220230210226d30215d00205cf01f01d01e01c01d01b01c01a01b01901a0180190170180160170150160140150130140120135cd01201001100f0105cb00f00d00e5ca00d5c900c00a00b00900a5c80090070085c70070050064a10055c60035d345db,
    0x2c5d402b02a02a0290290280280260270250018010260240250230240220230210226d30215d00205cf01f01d01e01c01d01b01c01a01b01901a0180190170180160170150160140150130140120135cd01201001100f0105cb00f00d00e5ca00d5c900c00a00b00900a5c80090070085c70070050064a10055c60035d345dc,
    0x2c5d402b02a02a0290290280280260270250018010260240250230240220230210226d30215d00205cf01f01d01e01c01d01b01c01a01b01901a0180190170180160170150160140150130140120135cd01201001100f0105cb00f00d00e5ca00d5c900c00a00b00900a5c80090070085c70070050064a10055c60035d345dd,
    0x18010065b10566,
    0x18010065b10567,
    0x18010065b10568,
    0x18010065b10569,
    0x18010065b1056a,
    0x18010065b1056b,
    0x2c5d402b02a02a0290290280280260270250018010260240250230240220230210226d30215d00205cf01f01d01e01c01d01b01c01a01b01901a0180190170180160170150160140150130140120135cd01201001100f0105cb00f00d00e5ca00d5c900c00a00b00900a5c80090070085c70070050064a10055c60035d345de,
    0x2c5d402b02a02a0290290280280260270250018010260240250230240220230210226d30215d00205cf01f01d01e01c01d01b01c01a01b01901a0180190170180160170150160140150130140120135cd01201001100f0105cb00f00d00e5ca00d5c900c00a00b00900a5c80090070085c70070050064a10055c60035d345df,
    0x2c5d402b02a02a0290290280280260270250018010260240250230240220230210226d30215d00205cf01f01d01e01c01d01b01c01a01b01901a0180190170180160170150160140150130140120135cd01201001100f0105cb00f00d00e5ca00d5c900c00a00b00900a5c80090070085c70070050064a10055c60035d345e0,
    0x2c5d402b02a02a0290290280280260270250018010260240250230240220230210226d30215d00205cf01f01d01e01c01d01b01c01a01b01901a0180190170180160170150160140150130140120135cd01201001100f0105cb00f00d00e5ca00d5c900c00a00b00900a5c80090070085c70070050064a10055c60035d345e1,
    0x2b02a02a6480295770283a00274a60018010265400255d102453f0235ab0225dd0215710204c201f57501e57401d5ce01c4a201b53e0f880f0115cc00d47a0074c10064c002d54304157000364f55e2,
    0x2b02a02a6480295770283a00274a60018010265400255d102453f0235ab0225dd0215710204c201f57501e57401d5ce01c4a201b53e0115cc00d47a0074c10064c004157000364f45e3,
    0x2b02a02a6480295770283a00274a60018010265400255d102453f0235ab0225dd0215710204c201f57501e57401d5ce01c4a201b53e0115cc00d47a0074c10064c004157000364f45e4,
    0x2b02a02a6480295770283a00274a60018010265400255d102453f0235ab0225dd0215710204c201f57501e57401d5ce01c4a201b53e0115cc00d47a0074c10064c004157000364f45e5,
    0x2b02a02a6480295770283a00274a60018010265400255d102453f0235ab0225dd0215710204c201f57501e57401d5ce01c4a201b53e0115cc00d47a0074c10065c004157000364f45e6,
    0x2b02a02a6480295770283a00274a60018010265400255d102453f0235ab0225dd0215710204c201f57501e57401d5ce01c4a201b53e0115cc00d47a0074c10064c004157000364f45e7,
    0x2b02a02a6480295770283a00274a60018010265400255d102453f0235ab0225dd0215710204c201f57501e57401d5ce01c4a201b53e0115cc00d47a0074c10064c004157000364f45e8,
    0x2b02a02a6480295770283a00274a60018010265400255d102453f0235ab0225dd0215710204c201f57501e57401d5ce01c4a201b53e0115cc00d47a0074c10065c004157000364f45e9,
    0x2b02a02a6480295770283a00274a60018010265400255d102453f0235ab0225dd0215710204c201f57501e57401d5ce01c4a201b53e0115cc00d47a0074c10064c004157000364f45ea,
    0x2b02a02a6480295770283a00274a60018010265400255d102453f0235ab0225dd0215710204c201f57501e57401d5ce01c4a201b53e0115cc00d47a0074c10064c004157000364f45eb,
    0x2b02a02a6480295770283a00274a60018010265400255d102453f0235ab0225dd0215710204c201f57501e57401d5ce01c4a201b53e0115cc00d47a0074c10064c004157000364f45ec,
    0x2b02a02a6480295770283a00274a60018010265400255d102453f0235ab0225dd0215710204c201f57501e57401d5ce01c4a201b53e0115cc00d47a0074c10064c004157000364f45ed,
    0x2b02a02a6480295770283a00274a60018010265400255d102453f0235ab0225dd0215710204c201f57501e57401d5ce01c4a201b53e0115cc00d47a0074c10064c004157000364f45ee,
    0x2b02a02a6480295770283a00274a60018010265400255d102453f0235ab0225dd0215710204c201f57501e57401d5ce01c4a201b53e0115cc00d47a0074c10064c004157000364f45ef,
    0x2b02a02a6480295770283a00274a60018010265400255d102453f0235ab0225dd0215710204c201f57501e57401d5ce01c4a201b53e0115cc00d47a0074c10064c004157000364f45f0,
    0x2b02a02a6480295770283a00274a60018010265400255d102453f0235ab0225dd0215710204c201f57501e57401d5ce01c4a201b53e0115cc00d47a0074c10064c004157000364f45f1,
    0x2b02a02a6480295770283a00274a60018010265400255d102453f0235ab0225dd0215710204c201f57501e57401d5ce01c4a201b53e0115cc00d47a0074c10064c004157000364f45f2,
    0x2b02a02a6480295770283a00274a60018010265400255d102453f0235ab0225dd0215710204c201f57501e57401d5ce01c4a201b53e0115cc00d47a0074c10064c004157000364f45f3,
    0x2b02a02a6480295770283a00274a60018010265400255d102453f0235ab0225dd0215710204c201f57501e57401d5ce01c4a201b53e0115cc00d47a0074c10064c004157000364f45f4,
    0x2b02a02a6480295770283a00274a60018010265400255d102453f0235ab0225dd0215710204c201f57501e57401d5ce01c4a201b53e0115cc00d47a0074c10064c004157000364f45f5,
    0x2b02a02a6480295770283a00274a60018010265400255d102453f0235ab0225dd0215710204c201f57501e57401d5ce01c4a201b53e0115cc00d47a0074c10064c004157000364f45f6,
    0x2b02a02a6480295770283a00274a60018010265400255d102453f0235ab0225dd0215710204c201f57501e57401d5ce01c4a201b53e0115cc00d47a0074c10065c004157000364f45f7,
    0x656ca0018010263ce06455106355006254f04354e06154d06054c05f54b05e54a05d54905c5480594e403e4e201c5e705b5460114e10f987e05a5471494,
    0x656ca0018010263ce06455106355006254f04354e06154d06054c05f54b05e54a05d54905c5480594e403e4e201c5e705b5460114e10f987f05a5471494,
    0x754720018010cf8871400,
    0x656ca0018010263ce06455106355006254f04354e06154d06054c05f54b05e54a05d54905c5480594e403e4e201c5e705b5460114e10f98ac05a5471494,
    0x2b02a02a6480295770283a00274a60018010265400255d102453f0235ab0225dd0215710204c201f57501e57401d5ce01c4a201b53e0115cc00d47a0074c10065c004157000364f45f8,
    0x2b02a02a6480295770283a00274a60018010265400255d102453f0235ab0225dd0215710204c201f57501e57401d5ce01c4a201b53e0115cc00d47a0074c10065c004157000364f45f9,
    0x2b02a02a6480295770283a00274a60018010265400255d102453f0235ab0225dd0215710204c201f57501e57401d5ce01c4a201b53e0115cc00d47a0074c10065c004157000364f45fa,
    0x656ca0018010263ce06455106355006254f04354e06154d06054c05f54b05e54a05d54905c5480594e403e4e201c5e705b5460114e10f98cd05a5471494,
    0x656ca0018010263ce06455106355006254f04354e06154d06054c05f54b05e54a05d54905c5480594e403e4e201c5e705b5460114e10f98ce05a5471494,
    0x18010263ce06254f04354e05e54a0594e403e4e201c5e70114e10fa8cf05a5471494,
    0x18010263ce06254f0594e403e4e201c5e70114e10fb8cf1494,
    0x18010263ce06355006254f04354e06154d06054c05f54b05e54a0594e403e4e201c5e705b5460114e10fc8cf05a5471494,
    0x18010263ce06355006254f04354e06154d06054c05f54b05e54a05c5480594e403e4e201c5e705b5460114e10fd8cf05a5471494,
    0x18010263ce06254f04354e0594e403e4e201c5e70114e10fe8cf05a5471494,
    0x18010263ce06355006254f04354e05e54a0594e403e4e201c5e705b5460114e10ff8cf05a5471494,
    0x18010263ce06355006254f04354e05f54b05e54a0594e403e4e201c5e705b5460114e11008cf05a5471494,
    0x18010263ce06355006254f04354e06054c05f54b05e54a0594e403e4e201c5e705b5460114e11018cf05a5471494,
    0x18010263ce06254f0594e403e4e201c5e70114e11028cf05a5471494,
    0x18010263ce06254f0594e403e4e201c5e70114e10fb8cf1494,
    0x18010263ce06254f04354e05e54a0594e403e4e201c5e705b5460114e11038cf05a5471494,
    0x18010263ce06355006254f04354e06154d06054c05f54b05e54a05d54905c5480594e403e4e201c5e705b5460114e11048cf05a5471494,
    0x656ca0018010263ce06455106355006254f04354e06154d06054c05f54b05e54a05d54905c5480594e403e4e201c5e705b5460114e10f98e005a5471494,
    0x656ca0018010263ce06455106355006254f04354e06154d06054c05f54b05e54a05d54905c5480594e403e4e201c5e705b5460114e10f98e105a5471494,
    0x656ca0018010263ce06455106355006254f04354e06154d06054c05f54b05e54a05d54905c5480594e403e4e201c5e705b5460114e10f993405a5471494,
    0x656ca0018010263ce06455106355006254f04354e06154d06054c05f54b05e54a05d54905c5480594e403e4e201c5e705b5460114e10f993605a5471494,
    0x656ca0018010263ce06455106355006254f04354e06154d06054c05f54b05e54a05d54905c5480594e403e4e201c5e705b5460114e10f993705a5471494,
    0x2b02a02a6480295770283a00274a60018010265400255d102453f0235ab0225dd0215710204c201f57501e57401d5ce01c4a201b53e0115cc00d47a0074c10064c004157000364f45fb,
    0x656ca0018010263ce06455106355006254f04354e06154d06054c05f54b05e54a05d54905c5480594e403e4e201c5e705b5460114e10f996705a5471494,
    0x18010348050335420325411058040800,
    0x18010348050335420225fa03254101181010680404f59100359249fc,
    0x3c05a03b05903a05802b02a02a02903902602905703805502702500180102602402502302402203705402302102202002105302001e01f01d01e01c01d01b01c05201b01901a01801901701801601701501601401501301401201301101201001100f01000e00f00d00e00c00d05100c00a00b00900a05000900700800600700503645103504e00600402d04d00504c0030560dfd,
    0x2b02a02a0890294a70283a00274a600180102639f0255d102439e0370540234a50225dd0210860204c201f57501e57401d5ce04945b01c4a201b39d0115cc00d0840074c10350a10064c0041083003088519d,
    0x180104c58e01e45c1dfe,
    0x180104d58f01f45c21ff,
    0x2b02a02a70d0296800283a00274a60018010266470255d10246460235760225dd0216c00204c201f57501e57403e4dd01d5ce01c4a201b6450115cc00d6bf0074c10064c00416be0037154600,
    0x18010565460400,
    0x180106859601d6890675970060e51a01,
    0x18010345520800,
    0x18010325440400,
    0x18010335530400,
    0x2b02a00180103480503304702204602104502004403210703181b01181a00d04100c00a0300090090070363d706f80400604002e03f02d03e09a4,
    0x180103480503304701c06e03210703181b01181a03f06d0363d700606c07680400306f49a5,
    0x2b02a02a02902902802802602780d00180102680c04402202580b04380a03480502302103304702207a02107902007801f01d01e01c01d80901c80803210701b01903181b01182000d07700c0760070750363d700607404280404107300307b49a6,
    0x3c11b07110c0018010348050330470220b801f5aa01e5a901c82303210703181b0118220363d707880402d82107711800311a09a7,
    0x18010348120330c903212403181b0118260363d70508110993,
    0x3c12607110c00180103480503304702112501f5aa01e5a901c82303210703181b01181a0363d707880402d82107a10a0994,
    0x7110c00180103480503304701f5aa01e5a901c82303210703181b01181a0363d707680407010a0994,
    0x180103646003512b0602,
    0x2c02b02b02a02a02902902802802602702500180102602402502302402202302102202002101f02001e01f01d01e01c01d01b01c01a01b01901a01801901701801601701501601401501301401201301101201001100f01000e00f00d00e00c00d00b00c00a00b00900a0080090070080060070050365560060040050030030274425,
    0x180103646003512b043b,
    0x3c46603b05903a46502b02a07105e00180103705402146401f5aa01e5a901c10e03646303504e0064be02d04d0724620dad,
    0x655e50018010263ce0643cd0633cc0623cb0433ca0613c90603c805f3c705e3c605d3c505c3c40594e403e4e201c5e705b3c00454670114e10353c305a3c21453,
    0x18010454670400,
    0x2c02b02b02a02a02902902802802602702500180102602402502302402202302102202002101f02001e01f01d01e01c01d01b01c01a01b01901a01801901701801601701501601401501301401201301101201001100f01000e00f00d00e00c00d00b00c00a00b00900a0080090070080060070050364680060040050030030274603,
    0x180108f46904a1930311920064e608e1945a04,
    0x180108f46903e19904a1930311920064e608e1945a04,
    0x180108f46903e19904a1930064e608e1945a04,
    0x180108f46904a1930064e608e1945a04,
    0x180104c19b01e46a1c60,
    0x180104d19c01f46a2061,
    0x3c1a003b6de03a19f02b02a0711a400180102119e01f4a401e4a301c5f801259b03646b02d6dd0723d80e05,
    0x18010335580400,
    0x18010335590400,
    0x180103355a0400,
    0x9446c0018012c00,
    0x2b02a02a3a10294a70283a00274a600180102639f0255d102439e0371c20234a50225dd0214540204c201f57501e57401d5ce01c57301b39d04546d0115cc00d4530074c103518b0065860414520033ac5206,
    0x180104b5a004a46e0035a15a07,
    0x180106859601d6890671e50060e51a08,
    0x180103647003512b043b,
    0x180103647103512b043b,
    0x180108f47404a26d0064e608e19458be,
    0x3c1a003b6de03a19f02b02a0711a400180102119e01f4a401e4a301c5f801227803647502d6dd0723d80cc3,
    0x655e50018010263ce0643cd0633cc0623cb0433ca0613c90603c805f3c705e3c605d3c505c3c40594e403e4e201c5e705b3c00454760114e103518b05a3c21609,
    0x180104547603518b060a,
    0x180104547603518b045d,
    0x6568b0018010263ce06465f06365e06265d04365c06165b06065a05f65905e65805d65705c6560594e403e4e201c5e703156e05b6540114e105a6551494,
    0x180104a4770311920400,
    0x180103e19904a4770311920400,
    0x180103e19904a4770400,
    0x180104a4770400,
    0x180104547803518b045d,
    0x180103480503354203264a1058040800,
    0x18010348050335420225fa03264a01181010680404f59100359249fc,
    0x3c4b603b05903a4b502b02a02a0290390260290570380550270250018010260240250230240220370540230210220200214b302001e01f01d01e01c01d01b01c05201b01901a01801901701801601701501601401501301401201301101201001100f01000e00f00d00e00c00d4b200c00a00b00900a4b100900700800600700503647903504e00600402d04d0054b00034b40e0b,
    0x2b02a02a0890294a70283a00274a600180102639f0255d102439e0370540234a50225dd0210860204c201f57501e57401d5ce04947b01c4a201b39d0115cc00d0840074c10350a10064c0041083003088519d,
    0x180104c5b601e47c1e0c,
    0x180104d5b701f47c220d,
    0x2b02a02a70d0296800283a00274a60018010266470255d10246460235ab0225dd0215a60204c201f57501e57403e4dd01d5ce01c4a201b6450115cc00d48f0074c10064c00415a5003691460e,
    0x18010685b901d6890675ba0060e51a0f,
    0x2c02b02b02a02a02902902802802602702500180102602402502302402202302102202002101f02001e01f01d01e01c01d01b01c01a01b01901a01801901701801601701501601401501301401201301101201001100f01000e00f00d00e00c00d00b00c00a00b00900a0080090070080060070050364610060040050030030274425,
    0x3c48403b05903a48302b02a07105e00180103705402148201f5aa01e5a901c10e03648103504e0064be02d04d0724800dad,
    0x655e50018010263ce0643cd0633cc0623cb0433ca0613c90603c805f3c705e3c605d3c505c3c40594e403e4e201c5e705b3c00454850114e10353c305a3c21453,
    0x18010454850400,
    0x2c02b02b02a02a02902902802802602702500180102602402502302402202302102202002101f02001e01f01d01e01c01d01b01c01a01b01901a01801901701801601701501601401501301401201301101201001100f01000e00f00d00e00c00d00b00c00a00b00900a0080090070080060070050364860060040050030030274610,
    0x180108f48704a1930311920064e608e1945a11,
    0x180108f48703e19904a1930311920064e608e1945a11,
    0x180108f48703e19904a1930064e608e1945a11,
    0x180108f48704a1930064e608e1945a11,
    0x180104c19b01e4881c60,
    0x180104d19c01f4882061,
    0x944890018012c00,
    0x180104b5bc04a48a0035bd5a12,
    0x18010685b901d6890671e50060e51a13,
    0x180108f48d04a26d0064e608e19458be,
    0x180104a48e0311920400,
    0x180103e19904a48e0311920400,
    0x180103e19904a48e0400,
    0x180104a48e0400,
    0x3c58203b05903a58102b02a02a02903902602905703805502702500180102602402502302402203705402302102202002157f02001e01f01d01e01c01d01b01c05201b01901a01801901701801601701501601401501301401201301101201001100f01000e00f00d00e00c00d57e00c00a00b00900a57d00900700800600700503647903504e00600402d04d00557c0035800e0b,
    0x2b02a02a0890294a70283a00274a600180102639f0255d102439e0370540234a50225dd0210860204c201f57501e57401d5ce04949001c4a201b39d0115cc00d0840074c10350a10064c0041083003088519d,
    0x3c49703b05903a49602b02a07105e00180103705402149501f5aa01e5a901c10e03649403504e0064be02d04d0724930dad,
    0x2c02b02b02a02a02902902802802602702500180102602402502302402202302102202002101f02001e01f01d01e01c01d01b01c01a01b01901a01801901701801601701501601401501301401201301101201001100f01000e00f00d00e00c00d00b00c00a00b00900a0080090070080060070050364980060040050030030274614,
    0x2b02a02a0890294a70283a00274a600180102639f0255d102439e0370540234a50225dd0210860204c201f57501e57401d5ce04949a01c4a201b39d0115cc00d0840074c10350a10064c0041083003088519d,
    0x3c4a003b05903a49f02b02a07105e00180103705402149e01f5aa01e5a901c10e03649d03504e0064be02d04d07249c0dad,
    0x2b02a0018010348050330470220460210450200440320430314af00d04100c00a03000900900702f80400604002e5d502d03e0803,
    0x180101106a0615,
    0x180103480503304701c06e0320430314af03f06d00606c04080400306f4808,
    0x2b02a02a02902902802802602780d00180102680c04402202580b04380a03480502302103304702207a02107902007801f01d01e01c01d80901c80803204301b0190314af01180700d07700c07600707500607404280404107300307b480a,
    0x180101106a0616,
    0x180101171900d5df0617,
    0x2b02a02a0890294a70283a00274a600180102639f0255d102439e0370870234a50225dd0210860204c201f57501e57401d5ce01c4a201b39d0450850115cc00d0840074c10064c00410830030885218,
    0x180101106a0619,
    0x180104b4d004a0a90034d15a1a,
    0x180104e0b20060b10034d74419,
    0x18010348050330470226e30320430314af01181005080404f0b60030b9481a,
    0x514df0018012400,
    0x2b02a02a6d70296d60280260270250018010265d202568a0246d50236d402207a0215dc02007801f01d01e01c01d01b01c01a01b6d201100f00d5db0070750060740415da0036df461b,
    0x18010348120330c90320c80314af0558110800,
    0x18010348050330470320430314af0558040800,
    0x2b02a02a0290290280280260270250018010260240250230240220230210226d30216e80205cf01f01d01e01c01d01b01c01a01b01901100f00d0f300c00a00b00900a0f200900700707500607406d07300307b461c,
    0x2b02a02a6d70296d60280260270250018010265d202568a0246d50236d402207a0215dc02007801f01d01e01c01d01b01c01a01b6d201100f00d5db0070750060740415da0036df461d,
    0x2b02a02a6d70296d60280260270250018010265d202568a0246d50236d402207a0215dc02007801f01d01e01c01d01b01c01a01b6d201100f00d5db0070750065720415da0036df461e,
    0x2c02b02b02a02a02902902802802602702500180102602402502302402202302102202002101f02001e01f01d01e01c01d01b01c01a01b01901a01801901701801601701501601401501301401201301101201001100f01000e00f00d00e00c00d00b00c00a00b00900a0080090070080060070050364ee0060040050030030274425,
    0x2b02a02a3a10294a70283a00274a600180102639f0255d102439e0234a50225dd0214540204c201f57501e57401d5ce01c57301b39d0115cc00d4530074c10065860414520033ac461f,
    0x18010348050335d70325d60f38040800,
    0x2b02a02a6d70296d602802602780d0018010269aa0446d50259a90439a80348050236d40335d702207a0215dc02007801f01d01e01c01d80901c8080325d601b6d201180700d5db0070750060741078040415da0036df4a20,
    0x18010348050335d702215e0325d601181010880404f6e20036e44a21,
    0x18010110b702d5fb0035fc4622,
    0x2b02a0018010204f20426,
    0x18010111650623,
    0x2b02a02a6d70296d60280260270250018010265d202568a0246d50236d402207a0215dc02007801f01d01e01c01d01b01c01a01b6d201100f00d5db0070750060740415da0036df4624,
    0x18010110b70625,
    0x2b02a02a6d70296d60280260270250018010265d202568a0246d50236d402207a0215dc02007801f01d01e01c01d01b01c01a01b6d201100f00d5db0070750060740415da0036df4626,
    0x2b02a02a6d70296d60280260270250018010265d202568a0246d50236d402207a0215dc02007801f01d01e01c01d01b01c01a01b6d201100f00d5db0070750065720415da0036df4627,
    0x2b02a02a6d70296d60280260270250018010265d202568a0246d50236d402207a0215dc02007801f01d01e01c01d01b01c01a01b6d201100f00d5db0070750060740415da0036df4628,
    0x2b02a02a70d0296800283a00274a60018010266470255d10246460235760225dd0216c00204c201f57501e57401d5ce01c4a201b6450115cc00d6bf0074c10064c00416be0037154629,
    0x2b02a02a6d70296d60280260270250018010265d202568a0246d50236d402207a0215dc02007801f01d01e01c01d01b01c01a01b6d201100f00d5db0070750060740415da0036df462a,
    0x2b02a02a3a10294a70283a00274a600180102639f0255d102439e0234a50225dd0214540204c201f57501e57401d5ce01c57301b39d0115cc00d4530074c10065860414520033ac462b,
    0x2b02a02a6d70296d60280260270250018010265d202568a0246d50236d402207a0215dc02007801f01d01e01c01d01b01c01a01b6d201100f00d5db0070750060740415da0036df462c,
    0x2b02a02a6d70296d60280260270250018010265d202568a0246d50236d402207a0215dc02007801f01d01e01c01d01b01c01a01b6d201100f00d5db0070750060740415da0036df462d,
    0x2b02a02a6d70296d60280260270250018010265d202568a0246d50236d402207a0215dc02007801f01d01e01c01d01b01c01a01b6d201100f00d5db0070750060740415da0036df462e,
    0x2b02a02a6d70296d60280260270250018010265d202568a0246d50236d402207a0215dc02007801f01d01e01c01d01b01c01a01b6d201100f00d5db0070750060740415da0036df462f,
    0x2b02a02a6d70296d60280260270250018010265d202568a0246d50236d402207a0215dc02007801f01d01e01c01d01b01c01a01b6d201100f00d5db0070750060740415da0036df4630,
    0x2b02a02a6d70296d60280260270250018010265d202568a0246d50236d402207a0215dc02007801f01d01e01c01d01b01c01a01b6d201100f00d5db0070750060740415da0036df4631,
    0x2b02a02a6d70296d60280260270250018010265d202568a0246d50236d402207a0215dc02007801f01d01e01c01d01b01c01a01b6d201100f00d5db0070750060740415da0036df4632,
    0x2b02a02a6d70296d60280260270250018010265d202568a0246d50236d402207a0215dc02007801f01d01e01c01d01b01c01a01b6d201100f00d5db0070750060740415da0036df4633,
    0x2b02a02a6d70296d60280260270250018010265d202568a0246d50236d402207a0215dc02007801f01d01e01c01d01b01c01a01b6d201100f00d5db0070750060740415da0036df4634,
    0x2b02a02a6d70296d60280260270250018010265d202568a0246d50236d402207a0215dc02007801f01d01e01c01d01b01c01a01b6d201100f00d5db0070750060740415da0036df4635,
    0x2b02a02a6d70296d60280260270250018010265d202568a0246d50236d402207a0215dc02007801f01d01e01c01d01b01c01a01b6d201100f00d5db0070750060740415da0036df4636,
    0x2b02a02a6d70296d60280260270250018010265d202568a0246d50236d402207a0215dc02007801f01d01e01c01d01b01c01a01b6d201100f00d5db0070750065720415da0036df4637,
    0x180104e0b20060b10035084489,
    0x2b02a0018010205f40426,
    0x6571a0018010260e10645f10635f00625ef0435ee0615ed0605ec05f5eb05e5ea05d5e905c5e80590d603e0ce01c0d505b5e40110cd10987e05a5e61421,
    0x6571a0018010260e10645f10635f00625ef0435ee0615ed0605ec05f5eb05e5ea05d5e905c5e80590d603e0ce01c0d505b5e40110cd10987f05a5e61421,
    0x2b02a02a3a10294a70283a00274a600180102639f0255d102439e0234a50225dd0214540204c201f57501e57401d5ce01c57301b39d0115cc00d4530074c10065860414520033ac4638,
    0x18010110b70639,
    0x18010110b702d61d00361e463a,
    0x18010110b700361f463b,
    0x18010110b7063c,
    0x180101389e0a251004ae,
    0x2b02a02a70d0296800283a002783300180102699a04464602583104399903480502357603364b0225dd0216c00204c201f57501e57401d82f01c99803264a01b6450568a001182d03f25000d6bf00c2570074c10064c010a8040416be0037154978,
    0x6571a0018010260e10645f10635f00625ef0435ee0615ed0605ec05f5eb05e5ea05d5e905c5e80590d603e0ce01c0d505b5e40110cd1098ac05a5e61421,
    0x2b02a02a6d70296d60280260270250018010265d202568a0246d50236d402207a0215dc02007801f01d01e01c01d01b01c01a01b6d201100f00d5db0070750065720415da0036df463d,
    0x18010110b7063e,
    0x2b02a02a6d70296d60280260270250018010265d202568a0246d50236d402207a0215dc02007801f01d01e01c01d01b01c01a01b6d201100f00d5db0070750065720415da0036df463f,
    0x2b02a02a6d70296d60280260270250018010265d202568a0246d50236d402207a0215dc02007801f01d01e01c01d01b01c01a01b6d201100f00d5db0070750065720415da0036df4640,
    0x18010110b70641,
    0x6571a0018010260e10645f10635f00625ef0435ee0615ed0605ec05f5eb05e5ea05d5e905c5e80590d603e0ce01c0d505b5e40110cd1098cd05a5e61421,
    0x6571a0018010260e10645f10635f00625ef0435ee0615ed0605ec05f5eb05e5ea05d5e905c5e80590d603e0ce01c0d505b5e40110cd1098ce05a5e61421,
    0x18010260e10625ef0435ee05e5ea0590d603e0ce01c0d50110cd10b8cf05a5e61421,
    0x18010260e10625ef0590d603e0ce01c0d50110cd10c8cf1421,
    0x2b02a02a3a10294a70283a00274a600180102639f0255d102439e0234a50225dd0214540204c201f57501e57401d5ce01c57301b39d0115cc00d4530074c10065860414520033ac4642,
    0x18010260e10635f00625ef0435ee0615ed0605ec05f5eb05e5ea0590d603e0ce01c0d505b5e40110cd10d8cf05a5e61421,
    0x18010260e10635f00625ef0435ee0615ed0605ec05f5eb05e5ea05c5e80590d603e0ce01c0d505b5e40110cd10e8cf05a5e61421,
    0x18010260e10625ef0435ee0590d603e0ce01c0d50110cd10f8cf05a5e61421,
    0x18010260e10635f00625ef0435ee05e5ea0590d603e0ce01c0d505b5e40110cd1108cf05a5e61421,
    0x18010260e10635f00625ef0435ee05f5eb05e5ea0590d603e0ce01c0d505b5e40110cd1118cf05a5e61421,
    0x18010260e10635f00625ef0435ee0605ec05f5eb05e5ea0590d603e0ce01c0d505b5e40110cd1128cf05a5e61421,
    0x18010260e10625ef0590d603e0ce01c0d50110cd1138cf05a5e61421,
    0x18010260e10625ef0590d603e0ce01c0d50110cd10c8cf1421,
    0x18010260e10625ef0435ee05e5ea0590d603e0ce01c0d505b5e40110cd1148cf05a5e61421,
    0x18010260e10635f00625ef0435ee0615ed0605ec05f5eb05e5ea05d5e905c5e80590d603e0ce01c0d505b5e40110cd1158cf05a5e61421,
    0x6571a0018010260e10645f10635f00625ef0435ee0615ed0605ec05f5eb05e5ea05d5e905c5e80590d603e0ce01c0d505b5e40110cd1098e005a5e61421,
    0x6571a0018010260e10645f10635f00625ef0435ee0615ed0605ec05f5eb05e5ea05d5e905c5e80590d603e0ce01c0d505b5e40110cd1098e105a5e61421,
    0x2b02a02a0290290280280260270250018010260240250230240220230210226d30216e80205cf01f01d01e01c01d01b01c01a01b01901100f00d0f300c00a00b00900a0f200900700707500607406d07300307b4643,
    0x18010110b70644,
    0x18010110b70645,
    0x18010110b70646,
    0x18010110b70647,
    0x18010110b70648,
    0x18010110b70649,
    0x18010110b7003632464a,
    0x18010110b7064b,
    0x18010110b7064c,
    0x2b02a02a3a10294a70283a00274a600180102639f0255d102439e0234a50225dd0214540204c201f57501e57401d5ce01c57301b39d0455220115cc00d4530074c10065860414520033ac464d,
    0x6571a0018010260e10645f10635f00625ef0435ee0615ed0605ec05f5eb05e5ea05d5e905c5e80590d603e0ce01c0d505b5e40110cd10993405a5e61421,
    0x18010110b7064e,
    0x6571a0018010260e10645f10635f00625ef0435ee0615ed0605ec05f5eb05e5ea05d5e905c5e80590d603e0ce01c0d505b5e40110cd10993605a5e61421,
    0x6571a0018010260e10645f10635f00625ef0435ee0615ed0605ec05f5eb05e5ea05d5e905c5e80590d603e0ce01c0d505b5e40110cd10993705a5e61421,
    0x2b02a02a6d70296d60280260270250018010265d202568a0246d50236d402207a0215dc02007801f01d01e01c01d01b01c01a01b6d201100f00d5db0070750060740415da0036df464f,
    0x18010110b70650,
    0x18010110b70651,
    0x18010110b70652,
    0x18010110b70653,
    0x18010110b70654,
    0x18010110b70655,
    0x18010110b70656,
    0x18010110b70657,
    0x18010110b70658,
    0x18010110b70659,
    0x18010110b7065a,
    0x18010110b7065b,
    0x18010110b7065c,
    0x655e50018010263ce0643cd0633cc0623cb0433ca0613c90603c805f3c705e3c605d3c505c3c40594e403e4e201c5e705b3c00455310114e10353c305a3c21453,
    0x18010455310400,
    0x2b02a02a3a10294a70283a00274a600180102639f0255d102439e0234a50225dd0214540204c201f57501e57401d5ce01c57301b39d0455320115cc00d4530074c10065860414520033ac465d,
    0x2b02a02a3a10294a70283a00274a600180102639f0255d102439e0234a50225dd0214540204c201f57501e57401d5ce01c57301b39d0455330115cc00d4530074c10065860414520033ac465e,
    0x6571a0018010260e10645f10635f00625ef0435ee0615ed0605ec05f5eb05e5ea05d5e905c5e80590d603e0ce01c0d505b5e40110cd10996705a5e61421,
    0x18010110b7065f,
    0x18010110b70660,
    0x18010110b70661,
    0x18010110b70662,
    0x18010110b70663,
    0x18010110b70664,
    0x655e50018010263ce0643cd0633cc0623cb0433ca0613c90603c805f3c705e3c605d3c505c3c40594e403e4e201c5e705b3c004553a0114e10353c305a3c21453,
    0x180104553a0400,
    0x655e50018010263ce0643cd0633cc0623cb0433ca0613c90603c805f3c705e3c605d3c505c3c40594e403e4e201c5e705b3c004553b0114e10353c305a3c21453,
    0x180104553b0400,
    0x2b02a02a3a10294a70283a00274a600180102639f0255d102439e0234a50225dd0214540204c201f57501e57401d5ce01c57301b39d04553c0115cc00d4530074c10065860414520033ac4665,
    0x655e50018010263ce0643cd0633cc0623cb0433ca0613c90603c805f3c705e3c605d3c505c3c40594e403e4e201c5e705b3c004553d0114e10353c305a3c21453,
    0x180104553d0400,
    0x2b02a02a70d0296800283a00274a60018010266470255d10246460235760225dd0216c00204c201f57501e57401d5ce01c4a201b64511680f0115cc00d6bf0074c10064c002d6500416be0037155666,
    0x2b02a02a70d0296800283a00274a60018010266470255d10246460235760225dd0216c00204c201f57501e57401d5ce01c4a201b6450115cc00d6bf0074c10064c00416be0037154667,
    0x2b02a02a70d0296800283a00274a60018010266470255d10246460235760225dd0216c00204c201f57501e57401d5ce01c4a201b6450115cc00d6bf0074c10064c00416be0037154668,
    0x18010325441058111400,
    0x18010348120325441058110800,
    0x2b02a02a70d0296800283a00274a60018010266470255d10246460235760225dd0216c00204c201f57501e57401d5ce01c4a201b6450115cc00d6bf0074c10064c00416be0037154669,
    0x2b02a02a70d0296800283a00274a60018010266470255d10246460235760225dd0216c00204c201f57501e57401d5ce01c4a201b6450115cc00d6bf0074c10065c00416be003715466a,
    0x18010348050335d703264a0f38040800,
    0x2b02a02a70d0296800283a002783300180102699a0446460258310439990348050235760335d70225dd0216c00204c201f57501e57401d82f01c99803264a01b64501182d00d6bf0074c10064c01078040416be0037154978,
    0x18010348050335d702215e03264a01181010880404f6e20036e44a21,
    0x18010348120335450325441058110800,
    0x2b02a02a70d0296800283a00274a60018010266470255d10246460235760225dd0216c00204c201f57501e57401d5ce01c4a201b6450115cc00d6bf0074c10064c00416be003715466b,
    0x656ca0018010263ce06455106355006254f04354e06154d06054c05f54b05e54a05d54905c5480594e403e4e201c5e705b5460114e10f983d05a5471494,
    0x2b02a02a70d0296800283a00274a60018010266470255d10246460235760225dd0216c00204c201f57501e57401d5ce01c4a201b6450115cc00d6bf0074c10064c00416be003715466c,
    0x2b02a02a70d0296800283a00274a60018010266470255d10246460235760225dd0216c00204c201f57501e57401d5ce01c4a201b6450115cc00d6bf0074c10065c00416be003715466d,
    0x2b02a02a70d0296800283a00274a60018010266470255d10246460235760225dd0216c00204c201f57501e57401d5ce01c4a201b6450115cc00d6bf0074c10064c00416be003715466e,
    0x2b02a02a70d0296800283a00274a60018010266470255d10246460235760225dd0216c00204c201f57501e57401d5ce01c4a201b6450115cc00d6bf0074c10064c00416be003715466f,
    0x2b02a02a70d0296800283a00274a60018010266470255d10246460235760225dd0216c00204c201f57501e57401d5ce01c4a201b6450115cc00d6bf0074c10064c00416be0037154670,
    0x2b02a02a70d0296800283a00274a60018010266470255d10246460235760225dd0216c00204c201f57501e57401d5ce01c4a201b6450115cc00d6bf0074c10064c00416be0037154671,
    0x2b02a02a70d0296800283a00274a60018010266470255d10246460235760225dd0216c00204c201f57501e57401d5ce01c4a201b6450115cc00d6bf0074c10064c00416be0037154672,
    0x2b02a02a70d0296800283a00274a60018010266470255d10246460235760225dd0216c00204c201f57501e57401d5ce01c4a201b6450115cc00d6bf0074c10064c00416be0037154673,
    0x2b02a02a70d0296800283a00274a60018010266470255d10246460235760225dd0216c00204c201f57501e57401d5ce01c4a201b6450115cc00d6bf0074c10064c00416be0037154674,
    0x2b02a02a70d0296800283a00274a60018010266470255d10246460235760225dd0216c00204c201f57501e57401d5ce01c4a201b6450115cc00d6bf0074c10064c00416be0037154675,
    0x2b02a02a70d0296800283a00274a60018010266470255d10246460235760225dd0216c00204c201f57501e57401d5ce01c4a201b6450115cc00d6bf0074c10064c00416be0037154676,
    0x2b02a02a70d0296800283a00274a60018010266470255d10246460235760225dd0216c00204c201f57501e57401d5ce01c4a201b6450115cc00d6bf0074c10064c00416be0037154677,
    0x2b02a02a70d0296800283a00274a60018010266470255d10246460235760225dd0216c00204c201f57501e57401d5ce01c4a201b6450115cc00d6bf0074c10064c00416be0037154678,
    0x2b02a02a70d0296800283a00274a60018010266470255d10246460235760225dd0216c00204c201f57501e57401d5ce01c4a201b6450115cc00d6bf0074c10064c00416be0037154679,
    0x2b02a02a70d0296800283a00274a60018010266470255d10246460235760225dd0216c00204c201f57501e57401d5ce01c4a201b6450115cc00d6bf0074c10064c00416be003715467a,
    0x2b02a02a70d0296800283a00274a60018010266470255d10246460235760225dd0216c00204c201f57501e57401d5ce01c4a201b6450115cc00d6bf0074c10065c00416be003715467b,
    0x6568b0018010263ce06465f06365e06265d04365c06165b06065a05f65905e65805d65705c6560594e403e4e201c5e711787e05b6540114e105a6551494,
    0x6568b0018010263ce06465f06365e06265d04365c06165b06065a05f65905e65805d65705c6560594e403e4e201c5e711787f05b6540114e105a6551494,
    0x6568b0018010263ce06465f06365e06265d04365c06165b06065a05f65905e65805d65705c6560594e403e4e201c5e71178ac05b6540114e105a6551494,
    0x2b02a02a70d0296800283a00274a60018010266470255d10246460235760225dd0216c00204c201f57501e57401d5ce01c4a201b6450115cc00d6bf0074c10065c00416be003715467c,
    0x2b02a02a70d0296800283a00274a60018010266470255d10246460235760225dd0216c00204c201f57501e57401d5ce01c4a201b6450115cc00d6bf0074c10065c00416be003715467d,
    0x2b02a02a70d0296800283a00274a60018010266470255d10246460235760225dd0216c00204c201f57501e57401d5ce01c4a201b6450115cc00d6bf0074c10065c00416be003715467e,
    0x6568b0018010263ce06465f06365e06265d04365c06165b06065a05f65905e65805d65705c6560594e403e4e201c5e71178cd05b6540114e105a6551494,
    0x6568b0018010263ce06465f06365e06265d04365c06165b06065a05f65905e65805d65705c6560594e403e4e201c5e71178ce05b6540114e105a6551494,
    0x18010263ce06265d04365c05e6580594e403e4e201c5e71188cf0114e105a6551494,
    0x18010263ce06265d0594e403e4e201c5e70114e11198cf1494,
    0x18010263ce06365e06265d04365c06165b06065a05f65905e6580594e403e4e201c5e711a8cf05b6540114e105a6551494,
    0x18010263ce06365e06265d04365c06165b06065a05f65905e65805c6560594e403e4e201c5e711b8cf05b6540114e105a6551494,
    0x18010263ce06265d04365c0594e403e4e201c5e711c8cf0114e105a6551494,
    0x18010263ce06365e06265d04365c05e6580594e403e4e201c5e711d8cf05b6540114e105a6551494,
    0x18010263ce06365e06265d04365c05f65905e6580594e403e4e201c5e711e8cf05b6540114e105a6551494,
    0x18010263ce06365e06265d04365c06065a05f65905e6580594e403e4e201c5e711f8cf05b6540114e105a6551494,
    0x18010263ce06265d0594e403e4e201c5e71208cf0114e105a6551494,
    0x18010263ce06265d0594e403e4e201c5e70114e11198cf1494,
    0x18010263ce06265d04365c05e6580594e403e4e201c5e71218cf05b6540114e105a6551494,
    0x18010263ce06365e06265d04365c06165b06065a05f65905e65805d65705c6560594e403e4e201c5e71228cf05b6540114e105a6551494,
    0x6568b0018010263ce06465f06365e06265d04365c06165b06065a05f65905e65805d65705c6560594e403e4e201c5e71178e005b6540114e105a6551494,
    0x6568b0018010263ce06465f06365e06265d04365c06165b06065a05f65905e65805d65705c6560594e403e4e201c5e71178e105b6540114e105a6551494,
    0x6568b0018010263ce06465f06365e06265d04365c06165b06065a05f65905e65805d65705c6560594e403e4e201c5e711793405b6540114e105a6551494,
    0x6568b0018010263ce06465f06365e06265d04365c06165b06065a05f65905e65805d65705c6560594e403e4e201c5e711793605b6540114e105a6551494,
    0x6568b0018010263ce06465f06365e06265d04365c06165b06065a05f65905e65805d65705c6560594e403e4e201c5e711793705b6540114e105a6551494,
    0x2b02a02a70d0296800283a00274a60018010266470255d10246460235760225dd0216c00204c201f57501e57401d5ce01c4a201b6450115cc00d6bf0074c10064c00416be003715467f,
    0x6568b0018010263ce06465f06365e06265d04365c06165b06065a05f65905e65805d65705c6560594e403e4e201c5e711796705b6540114e105a6551494,
    0x18010348050333a703264a0d08040800,
    0x2b02a02a70d0296800283a002783300180102699a0446460258310439990348050235760333a70225dd0216c00204c201f57501e57401d82f01c99803264a01b64501182d00d6bf0074c10064c00f08040416be0037154978,
    0x18010348050333a70225fa03264a0118100f180404f4d90034da4851,
    0x18010566540400,
    0x18010346600800,
    0x18010323be0400,
    0x18010336610400,
    0x18010348120335e30326520f38110800,
    0x18010336650400,
    0x18010336660400,
    0x18010336670400,
    0x6568b0018010263ce06465f06365e06265d04365c06165b06065a05f65905e65805d65705c6560594e403e4e201c5e703167b05b6540114e105a6551494,
    0x180104b58a04a0a900358b5a80,
    0x515940018012400,
    0x2b02a02a70d0296800283a00274a60018010266470255d10246460235760225dd0216c00204c201f57501e57401d5ce01c4a201b6450115cc00d6bf0074c10064c00416be0037154681,
    0x2b02a02a7130296c10283a00274a600180102668e0256c902468d0237120225dd0216cd0204c201f57501e57401d5ce01c4a201b68c0115cc12380f00d6cc0074c10064c002d6920416cb0037175682,
    0x2b02a02a7130296c10283a00274a600180102668e0256c902468d0237120225dd0216cd0204c201f57501e57401d5ce01c4a201b68c0115cc00d6cc0074c10064c00416cb0037174683,
    0x2b02a02a7130296c10283a00274a600180102668e0256c902468d0237120225dd0216cd0204c201f57501e57401d5ce01c4a201b68c0115cc00d6cc0074c10064c00416cb0037174684,
    0x2b02a02a7130296c10283a00274a600180102668e0256c902468d0237120225dd0216cd0204c201f57501e57401d5ce01c4a201b68c0115cc00d6cc0074c10064c00416cb0037174685,
    0x2b02a02a7130296c10283a00274a600180102668e0256c902468d0237120225dd0216cd0204c201f57501e57401d5ce01c4a201b68c0115cc00d6cc0074c10065c00416cb0037174686,
    0x18010348120335450326521058110800,
    0x2b02a02a7130296c10283a00274a600180102668e0256c902468d0237120225dd0216cd0204c201f57501e57401d5ce01c4a201b68c0115cc00d6cc0074c10064c00416cb0037174687,
    0x2b02a02a7130296c10283a00274a600180102668e0256c902468d0237120225dd0216cd0204c201f57501e57401d5ce01c4a201b68c0115cc00d6cc0074c10064c00416cb0037174688,
    0x2b02a02a7130296c10283a00274a600180102668e0256c902468d0237120225dd0216cd0204c201f57501e57401d5ce01c4a201b68c0115cc00d6cc0074c10065c00416cb0037174689,
    0x2b02a02a7130296c10283a00274a600180102668e0256c902468d0237120225dd0216cd0204c201f57501e57401d5ce01c4a201b68c0115cc00d6cc0074c10064c00416cb003717468a,
    0x2b02a02a7130296c10283a00274a600180102668e0256c902468d0237120225dd0216cd0204c201f57501e57401d5ce01c4a201b68c0115cc00d6cc0074c10064c00416cb003717468b,
    0x2b02a02a7130296c10283a00274a600180102668e0256c902468d0237120225dd0216cd0204c201f57501e57401d5ce01c4a201b68c0115cc00d6cc0074c10064c00416cb003717468c,
    0x2b02a02a7130296c10283a00274a600180102668e0256c902468d0237120225dd0216cd0204c201f57501e57401d5ce01c4a201b68c0115cc00d6cc0074c10064c00416cb003717468d,
    0x2b02a02a7130296c10283a00274a600180102668e0256c902468d0237120225dd0216cd0204c201f57501e57401d5ce01c4a201b68c0115cc00d6cc0074c10064c00416cb003717468e,
    0x2b02a02a7130296c10283a00274a600180102668e0256c902468d0237120225dd0216cd0204c201f57501e57401d5ce01c4a201b68c0115cc00d6cc0074c10064c00416cb003717468f,
    0x2b02a02a7130296c10283a00274a600180102668e0256c902468d0237120225dd0216cd0204c201f57501e57401d5ce01c4a201b68c0115cc00d6cc0074c10064c00416cb0037174690,
    0x2b02a02a7130296c10283a00274a600180102668e0256c902468d0237120225dd0216cd0204c201f57501e57401d5ce01c4a201b68c0115cc00d6cc0074c10064c00416cb0037174691,
    0x2b02a02a7130296c10283a00274a600180102668e0256c902468d0237120225dd0216cd0204c201f57501e57401d5ce01c4a201b68c0115cc00d6cc0074c10064c00416cb0037174692,
    0x2b02a02a7130296c10283a00274a600180102668e0256c902468d0237120225dd0216cd0204c201f57501e57401d5ce01c4a201b68c0115cc00d6cc0074c10064c00416cb0037174693,
    0x2b02a02a7130296c10283a00274a600180102668e0256c902468d0237120225dd0216cd0204c201f57501e57401d5ce01c4a201b68c0115cc00d6cc0074c10064c00416cb0037174694,
    0x2b02a02a7130296c10283a00274a600180102668e0256c902468d0237120225dd0216cd0204c201f57501e57401d5ce01c4a201b68c0115cc00d6cc0074c10064c00416cb0037174695,
    0x2b02a02a7130296c10283a00274a600180102668e0256c902468d0237120225dd0216cd0204c201f57501e57401d5ce01c4a201b68c0115cc00d6cc0074c10064c00416cb0037174696,
    0x2b02a02a7130296c10283a00274a600180102668e0256c902468d0237120225dd0216cd0204c201f57501e57401d5ce01c4a201b68c0115cc00d6cc0074c10065c00416cb0037174697,
    0x656ce0018010263ce0646a006369f06269e04369d06169c06069b05f69a05e69905d69805c6970594e403e4e201c5e705b6950114e112487e05a6961494,
    0x656ce0018010263ce0646a006369f06269e04369d06169c06069b05f69a05e69905d69805c6970594e403e4e201c5e705b6950114e112487f05a6961494,
    0x656ce0018010263ce0646a006369f06269e04369d06169c06069b05f69a05e69905d69805c6970594e403e4e201c5e705b6950114e11248ac05a6961494,
    0x2b02a02a7130296c10283a00274a600180102668e0256c902468d0237120225dd0216cd0204c201f57501e57401d5ce01c4a201b68c0115cc00d6cc0074c10065c00416cb0037174698,
    0x2b02a02a7130296c10283a00274a600180102668e0256c902468d0237120225dd0216cd0204c201f57501e57401d5ce01c4a201b68c0115cc00d6cc0074c10065c00416cb0037174699,
    0x2b02a02a7130296c10283a00274a600180102668e0256c902468d0237120225dd0216cd0204c201f57501e57401d5ce01c4a201b68c0115cc00d6cc0074c10065c00416cb003717469a,
    0x656ce0018010263ce0646a006369f06269e04369d06169c06069b05f69a05e69905d69805c6970594e403e4e201c5e705b6950114e11248cd05a6961494,
    0x656ce0018010263ce0646a006369f06269e04369d06169c06069b05f69a05e69905d69805c6970594e403e4e201c5e705b6950114e11248ce05a6961494,
    0x18010263ce06269e04369d05e6990594e403e4e201c5e70114e11258cf05a6961494,
    0x18010263ce06269e0594e403e4e201c5e70114e11268cf1494,
    0x18010263ce06369f06269e04369d06169c06069b05f69a05e6990594e403e4e201c5e705b6950114e11278cf05a6961494,
    0x18010263ce06369f06269e04369d06169c06069b05f69a05e69905c6970594e403e4e201c5e705b6950114e11288cf05a6961494,
    0x18010263ce06269e04369d0594e403e4e201c5e70114e11298cf05a6961494,
    0x18010263ce06369f06269e04369d05e6990594e403e4e201c5e705b6950114e112a8cf05a6961494,
    0x18010263ce06369f06269e04369d05f69a05e6990594e403e4e201c5e705b6950114e112b8cf05a6961494,
    0x18010263ce06369f06269e04369d06069b05f69a05e6990594e403e4e201c5e705b6950114e112c8cf05a6961494,
    0x18010263ce06269e0594e403e4e201c5e70114e112d8cf05a6961494,
    0x18010263ce06269e0594e403e4e201c5e70114e11268cf1494,
    0x18010263ce06269e04369d05e6990594e403e4e201c5e705b6950114e112e8cf05a6961494,
    0x18010263ce06369f06269e04369d06169c06069b05f69a05e69905d69805c6970594e403e4e201c5e705b6950114e112f8cf05a6961494,
    0x656ce0018010263ce0646a006369f06269e04369d06169c06069b05f69a05e69905d69805c6970594e403e4e201c5e705b6950114e11248e005a6961494,
    0x656ce0018010263ce0646a006369f06269e04369d06169c06069b05f69a05e69905d69805c6970594e403e4e201c5e705b6950114e11248e105a6961494,
    0x656ce0018010263ce0646a006369f06269e04369d06169c06069b05f69a05e69905d69805c6970594e403e4e201c5e705b6950114e112493405a6961494,
    0x656ce0018010263ce0646a006369f06269e04369d06169c06069b05f69a05e69905d69805c6970594e403e4e201c5e705b6950114e112493605a6961494,
    0x656ce0018010263ce0646a006369f06269e04369d06169c06069b05f69a05e69905d69805c6970594e403e4e201c5e705b6950114e112493705a6961494,
    0x2b02a02a7130296c10283a00274a600180102668e0256c902468d0237120225dd0216cd0204c201f57501e57401d5ce01c4a201b68c0115cc00d6cc0074c10064c00416cb003717469b,
    0x656ce0018010263ce0646a006369f06269e04369d06169c06069b05f69a05e69905d69805c6970594e403e4e201c5e705b6950114e112496705a6961494,
    0x180103480503364b03264a1308040800,
    0x2b02a02a70d0296800283a002783300180102699a04464602583104399903480502357603364b0225dd0216c00204c201f57501e57401d82f01c99803264a01b64501182d00d6bf0074c10064c01318040416be0037154978,
    0x180103480503364b0225fa03264a01181013280404f6850036864979,
    0x18010566950400,
    0x18010346a10800,
    0x18010336a20400,
    0x18010336a60400,
    0x18010336a70400,
    0x18010336a80400,
    0x6568b0018010263ce06465f06365e06265d04365c06165b06065a05f65905e65805d65705c6560594e403e4e201c5e70316bc05b6540114e105a6551494,
    0x180104b5b204a0a90035b35a9c,
    0x515b80018012400,
    0x2b02a02a70d0296800283a00274a60018010266470255d10246460235760225dd0216c00204c201f57501e57401d5ce01c4a201b6450115cc00d6bf0074c10064c00416be003715469d,
    0x180103480503369003268f0f58040800,
    0x2b02a02a7130296c10283a00278330018010269ad04468d0259ac0439ab0348050237120336900225dd0216cd0204c201f57501e57401d82f01c99803268f01b68c01182d00d6cc0074c10064c01338040416cb0037174a9e,
    0x18010348050336900225fa03268f01181013480404f6c40036c54a9f,
    0x2b02a02a70d0296800283a00274a60018010266470255d10246460235760225dd0216c00204c201f57501e57401d5ce01c4a201b6450115cc00d6bf0074c10064c00416be00371546a0,
    0x180103480503369003264a0f58040800,
    0x2b02a02a70d0296800283a002783300180102699a0446460258310439990348050235760336900225dd0216c00204c201f57501e57401d82f01c99803264a01b64501182d00d6bf0074c10064c01338040416be0037154978,
    0x18010348050336900225fa03264a01181013480404f6c40036c54a9f,
    0x2b02a02a6d70296d60280260270250018010265d202568a0246d50236d402207a0215dc02007801f01d01e01c01d01b01c01a01b6d201100f00d5db00707513580f00607402d5e00415da0036df56a1,
    0x18010110b702d6e60035e1441b,
    0x2b02a02a4a802968002802602702500180102664702568a0246460236d402207a02164e02007801f01d01e01c03e0be01d5ce01c01a01b64501100f00d64d00707500607404164c00368446a2,
    0x2b02a02a6d70296d60280260270250018010265d202568a0246d50236d402207a0215dc02007801f01d01e01c01d01b01c01a01b6d201100f00d5db0070750060740415da0036df46a3,
    0x18010565e40400,
    0x18010325e20f38111400,
    0x18010348120325e20f38110800,
    0x18010345f20800,
    0x18010325e20400,
    0x18010335f30400,
    0x2b02a0018010205f40056e70426,
    0x715f900180101f5aa01e5a901c10b07010a04bf,
    0x3c6ec0715f90018010216eb01f5aa01e5a901c10b02d6e907a10a04bf,
    0x18010348120335e30325e20f38110800,
    0x180103299d0848370400,
    0x6571a0018010260e10645f10635f00625ef0435ee0615ed0605ec05f5eb05e5ea05d5e905c5e80590d603e0ce01c0d505b5e40110cd10983d05a5e61421,
    0x18010336000400,
    0x18010110b702d6f60036014467,
    0x18010336020400,
    0x18010336030400,
    0x18010110b70036044468,
    0x2b02a00180102204602104502004400d04100c00a03000900900702e6160488,
    0x18010348050330470226e303204301181009a80404f0b60030b9481a,
    0x7161700180101f5aa01e5a901c10b07010a058e,
    0x180103265208488b0400,
    0x3c6f907161700180101f5aa01e5a901c10b01188302d6f809c10a058e,
    0x7161700180101f5aa01e5a901c10b01188307010a058e,
    0x7161800180101f5aa01e5a901c10b07010a06a4,
    0x7d70107c70007161a0018010216ff01f5aa01e5a901c10b02d6fe07a10a06a5,
    0x180103480503364b03264a0568a003f2501368040800,
    0x180103480503364b0225fa03264a0568a001181003f25013780404f6850036864979,
    0x18010348120336530326520568a103f2581368110800,
    0x18010326520568a103f2581368111400,
    0x2b02a02a3a10294a70283a00274a600180102639f0255d102439e0234a50225dd0214540204c201f57501e57401d5ce01c57301b39d0120100115cc00d4530074c10065860414520033ac46a6,
    0x18010348120326520568a103f2581368110800,
    0x18010326520a92580400,
    0x18010110b700362244c6,
    0x6568b0018010263ce06465f06365e06265d04365c06165b06065a05f65905e65805d65705c6560594e403e4e201c5e703162505b6540114e105a6551494,
    0x7162600180101f5aa01e5a901c10b07010a06a7,
    0x7162600180101f5aa01e5a901c10b01188307010a06a7,
    0x7162700180101f5aa01e5a901c10b07010a06a8,
    0x7162800180101f5aa01e5a901c10b01188307010a06a9,
    0x7162900180101f5aa01e5a901c10b01188307010a06aa,
    0x7162a00180101f5aa01e5a901c10b07010a06ab,
    0x7162e00180101f5aa01e5a901c10b07010a06ac,
    0x7d70a07c70907162f00180101f5aa01e5a901c10b01188302d70809c10a06ad,
    0x7163000180101f5aa01e5a901c10b01188307010a06ae,
    0x7163100180101f5aa01e5a901c10b01188307010a06af,
    0x655e50018010263ce0643cd0633cc0623cb0433ca0613c90603c805f3c705e3c605d3c505c3c40594e403e4e201c5e705b3c00126350114e10353c305a3c21453,
    0x18010126350400,
    0x2b02a02a3a10294a70283a00274a600180102639f0255d102439e0234a50225dd0214540204c201f57501e57401d5ce01c57301b39d0120100115cc00d4530074c10065860414520033ac46b0,
    0x7163800180101f5aa01e5a901c10b07010a06b1,
    0x7163900180101f5aa01e5a901c10b01188307010a06b2,
    0x7163a00180101f5aa01e5a901c10b01188307010a06b3,
    0x7163b00180101f5aa01e5a901c10b07010a06b4,
    0x7163c00180101f5aa01e5a901c10b01188307010a06b5,
    0x7163d00180101f5aa01e5a901c10b01188307010a06b6,
    0x655e50018010263ce0643cd0633cc0623cb0433ca0613c90603c805f3c705e3c605d3c505c3c40594e403e4e201c5e705b3c00126420114e10353c305a3c21453,
    0x18010126420400,
    0x18010326520cf8111400,
    0x18010348120326520cf8110800,
    0x18010348120333bf0326520d08110800,
    0x6568b0018010263ce06465f06365e06265d04365c06165b06065a05f65905e65805d65705c6560594e403e4e201c5e711783d05b6540114e105a6551494,
    0x18010326930400,
    0x2b02a02a70d0296800283a00274a60018010266470256c90246460237120225dd0216d10204c201f57501e57403e4dd01d5ce01c4a201b6450115cc00d6d00074c10064c00416cf00371846b7,
    0x18010326930f58111400,
    0x18010348120326930f58110800,
    0x18010348120336530326521308110800,
    0x656ce0018010263ce0646a006369f06269e04369d06169c06069b05f69a05e69905d69805c6970594e403e4e201c5e705b6950114e112483d05a6961494,
    0x18010348120336940326930f58110800,
    0x18010348120336940326520f58110800,
    0x2b02a02a16f0294a70283a00274a600180102639f0255d102439e0234a50225dd02116d0204c201f57501e57401d5ce01c5c101b39d0120100115cc00d16c00c16b00b16a00a1690091680074c10065c206d16700316e46b8,
    0x2b02a02a70d0296800283a00274a60018010266470255d10246460235760225dd0216c00204c201f57501e57401d5ce01c4a201b6450115cc00d6bf0074c10064c00416be00371546b9,
    0x655e50018010263ce0643cd0633cc0623cb0433ca0613c90603c805f3c705e3c605d3c505c3c40594e403e4e201c5e705b3c00127040114e10353c305a3c21453,
    0x18010127040400]

end ScriptDeps.Grammar
