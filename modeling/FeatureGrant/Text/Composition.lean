import FeatureGrant.Text.CodePoint

/-!
# Composition

The primary composites of Unicode 14: for a starting character the marks it
takes and the single character each pair is written as.
-/

namespace FeatureGrant.Text

/-- Rows of composites: the starter, and for each mark in turn the mark and
the composite. -/
def compositionRows : List PackedRow :=
  [⟨0x3C, 2, 0x33800226E⟩,
   ⟨0x3D, 2, 0x338002260⟩,
   ⟨0x3E, 2, 0x33800226F⟩,
   ⟨0x41, 12, 0x3000000C00003010000C10003020000C20003030000C3000304000100000306000102⟩,
   ⟨0x41, 12, 0x3070002260003080000C4000309001EA200030A0000C500030C0001CD00030F000200⟩,
   ⟨0x41, 8, 0x311000202000323001EA0000325001E00000328000104⟩,
   ⟨0x42, 6, 0x307001E02000323001E04000331001E06⟩,
   ⟨0x43, 10, 0x30100010600030200010800030700010A00030C00010C0003270000C7⟩,
   ⟨0x44, 12, 0x307001E0A00030C00010E000323001E0C000327001E1000032D001E12000331001E0E⟩,
   ⟨0x45, 12, 0x3000000C80003010000C90003020000CA000303001EBC000304000112000306000114⟩,
   ⟨0x45, 12, 0x3070001160003080000CB000309001EBA00030C00011A00030F000204000311000206⟩,
   ⟨0x45, 10, 0x323001EB800032700022800032800011800032D001E18000330001E1A⟩,
   ⟨0x46, 2, 0x307001E1E⟩,
   ⟨0x47, 12, 0x3010001F400030200011C000304001E2000030600011E00030700012000030C0001E6⟩,
   ⟨0x47, 2, 0x327000122⟩,
   ⟨0x48, 12, 0x302000124000307001E22000308001E2600030C00021E000323001E24000327001E28⟩,
   ⟨0x48, 2, 0x32E001E2A⟩,
   ⟨0x49, 12, 0x3000000CC0003010000CD0003020000CE00030300012800030400012A00030600012C⟩,
   ⟨0x49, 12, 0x3070001300003080000CF000309001EC800030C0001CF00030F00020800031100020A⟩,
   ⟨0x49, 6, 0x323001ECA00032800012E000330001E2C⟩,
   ⟨0x4A, 2, 0x302000134⟩,
   ⟨0x4B, 10, 0x301001E3000030C0001E8000323001E32000327000136000331001E34⟩,
   ⟨0x4C, 12, 0x30100013900030C00013D000323001E3600032700013B00032D001E3C000331001E3A⟩,
   ⟨0x4D, 6, 0x301001E3E000307001E40000323001E42⟩,
   ⟨0x4E, 12, 0x3000001F80003010001430003030000D1000307001E4400030C000147000323001E46⟩,
   ⟨0x4E, 6, 0x32700014500032D001E4A000331001E48⟩,
   ⟨0x4F, 12, 0x3000000D20003010000D30003020000D40003030000D500030400014C00030600014E⟩,
   ⟨0x4F, 12, 0x30700022E0003080000D6000309001ECE00030B00015000030C0001D100030F00020C⟩,
   ⟨0x4F, 8, 0x31100020E00031B0001A0000323001ECC0003280001EA⟩,
   ⟨0x50, 4, 0x301001E54000307001E56⟩,
   ⟨0x52, 12, 0x301000154000307001E5800030C00015800030F000210000311000212000323001E5A⟩,
   ⟨0x52, 4, 0x327000156000331001E5E⟩,
   ⟨0x53, 12, 0x30100015A00030200015C000307001E6000030C000160000323001E62000326000218⟩,
   ⟨0x53, 2, 0x32700015E⟩,
   ⟨0x54, 12, 0x307001E6A00030C000164000323001E6C00032600021A00032700016200032D001E70⟩,
   ⟨0x54, 2, 0x331001E6E⟩,
   ⟨0x55, 12, 0x3000000D90003010000DA0003020000DB00030300016800030400016A00030600016C⟩,
   ⟨0x55, 12, 0x3080000DC000309001EE600030A00016E00030B00017000030C0001D300030F000214⟩,
   ⟨0x55, 12, 0x31100021600031B0001AF000323001EE4000324001E7200032800017200032D001E76⟩,
   ⟨0x55, 2, 0x330001E74⟩,
   ⟨0x56, 4, 0x303001E7C000323001E7E⟩,
   ⟨0x57, 12, 0x300001E80000301001E82000302000174000307001E86000308001E84000323001E88⟩,
   ⟨0x58, 4, 0x307001E8A000308001E8C⟩,
   ⟨0x59, 12, 0x300001EF20003010000DD000302000176000303001EF8000304000232000307001E8E⟩,
   ⟨0x59, 6, 0x308000178000309001EF6000323001EF4⟩,
   ⟨0x5A, 12, 0x301000179000302001E9000030700017B00030C00017D000323001E92000331001E94⟩,
   ⟨0x61, 12, 0x3000000E00003010000E10003020000E20003030000E3000304000101000306000103⟩,
   ⟨0x61, 12, 0x3070002270003080000E4000309001EA300030A0000E500030C0001CE00030F000201⟩,
   ⟨0x61, 8, 0x311000203000323001EA1000325001E01000328000105⟩,
   ⟨0x62, 6, 0x307001E03000323001E05000331001E07⟩,
   ⟨0x63, 10, 0x30100010700030200010900030700010B00030C00010D0003270000E7⟩,
   ⟨0x64, 12, 0x307001E0B00030C00010F000323001E0D000327001E1100032D001E13000331001E0F⟩,
   ⟨0x65, 12, 0x3000000E80003010000E90003020000EA000303001EBD000304000113000306000115⟩,
   ⟨0x65, 12, 0x3070001170003080000EB000309001EBB00030C00011B00030F000205000311000207⟩,
   ⟨0x65, 10, 0x323001EB900032700022900032800011900032D001E19000330001E1B⟩,
   ⟨0x66, 2, 0x307001E1F⟩,
   ⟨0x67, 12, 0x3010001F500030200011D000304001E2100030600011F00030700012100030C0001E7⟩,
   ⟨0x67, 2, 0x327000123⟩,
   ⟨0x68, 12, 0x302000125000307001E23000308001E2700030C00021F000323001E25000327001E29⟩,
   ⟨0x68, 4, 0x32E001E2B000331001E96⟩,
   ⟨0x69, 12, 0x3000000EC0003010000ED0003020000EE00030300012900030400012B00030600012D⟩,
   ⟨0x69, 12, 0x3080000EF000309001EC900030C0001D000030F00020900031100020B000323001ECB⟩,
   ⟨0x69, 4, 0x32800012F000330001E2D⟩,
   ⟨0x6A, 4, 0x30200013500030C0001F0⟩,
   ⟨0x6B, 10, 0x301001E3100030C0001E9000323001E33000327000137000331001E35⟩,
   ⟨0x6C, 12, 0x30100013A00030C00013E000323001E3700032700013C00032D001E3D000331001E3B⟩,
   ⟨0x6D, 6, 0x301001E3F000307001E41000323001E43⟩,
   ⟨0x6E, 12, 0x3000001F90003010001440003030000F1000307001E4500030C000148000323001E47⟩,
   ⟨0x6E, 6, 0x32700014600032D001E4B000331001E49⟩,
   ⟨0x6F, 12, 0x3000000F20003010000F30003020000F40003030000F500030400014D00030600014F⟩,
   ⟨0x6F, 12, 0x30700022F0003080000F6000309001ECF00030B00015100030C0001D200030F00020D⟩,
   ⟨0x6F, 8, 0x31100020F00031B0001A1000323001ECD0003280001EB⟩,
   ⟨0x70, 4, 0x301001E55000307001E57⟩,
   ⟨0x72, 12, 0x301000155000307001E5900030C00015900030F000211000311000213000323001E5B⟩,
   ⟨0x72, 4, 0x327000157000331001E5F⟩,
   ⟨0x73, 12, 0x30100015B00030200015D000307001E6100030C000161000323001E63000326000219⟩,
   ⟨0x73, 2, 0x32700015F⟩,
   ⟨0x74, 12, 0x307001E6B000308001E9700030C000165000323001E6D00032600021B000327000163⟩,
   ⟨0x74, 4, 0x32D001E71000331001E6F⟩,
   ⟨0x75, 12, 0x3000000F90003010000FA0003020000FB00030300016900030400016B00030600016D⟩,
   ⟨0x75, 12, 0x3080000FC000309001EE700030A00016F00030B00017100030C0001D400030F000215⟩,
   ⟨0x75, 12, 0x31100021700031B0001B0000323001EE5000324001E7300032800017300032D001E77⟩,
   ⟨0x75, 2, 0x330001E75⟩,
   ⟨0x76, 4, 0x303001E7D000323001E7F⟩,
   ⟨0x77, 12, 0x300001E81000301001E83000302000175000307001E87000308001E8500030A001E98⟩,
   ⟨0x77, 2, 0x323001E89⟩,
   ⟨0x78, 4, 0x307001E8B000308001E8D⟩,
   ⟨0x79, 12, 0x300001EF30003010000FD000302000177000303001EF9000304000233000307001E8F⟩,
   ⟨0x79, 8, 0x3080000FF000309001EF700030A001E99000323001EF5⟩,
   ⟨0x7A, 12, 0x30100017A000302001E9100030700017C00030C00017E000323001E93000331001E95⟩,
   ⟨0xA8, 6, 0x300001FED000301000385000342001FC1⟩,
   ⟨0xC2, 8, 0x300001EA6000301001EA4000303001EAA000309001EA8⟩,
   ⟨0xC4, 2, 0x3040001DE⟩,
   ⟨0xC5, 2, 0x3010001FA⟩,
   ⟨0xC6, 4, 0x3010001FC0003040001E2⟩,
   ⟨0xC7, 2, 0x301001E08⟩,
   ⟨0xCA, 8, 0x300001EC0000301001EBE000303001EC4000309001EC2⟩,
   ⟨0xCF, 2, 0x301001E2E⟩,
   ⟨0xD4, 8, 0x300001ED2000301001ED0000303001ED6000309001ED4⟩,
   ⟨0xD5, 6, 0x301001E4C00030400022C000308001E4E⟩,
   ⟨0xD6, 2, 0x30400022A⟩,
   ⟨0xD8, 2, 0x3010001FE⟩,
   ⟨0xDC, 8, 0x3000001DB0003010001D70003040001D500030C0001D9⟩,
   ⟨0xE2, 8, 0x300001EA7000301001EA5000303001EAB000309001EA9⟩,
   ⟨0xE4, 2, 0x3040001DF⟩,
   ⟨0xE5, 2, 0x3010001FB⟩,
   ⟨0xE6, 4, 0x3010001FD0003040001E3⟩,
   ⟨0xE7, 2, 0x301001E09⟩,
   ⟨0xEA, 8, 0x300001EC1000301001EBF000303001EC5000309001EC3⟩,
   ⟨0xEF, 2, 0x301001E2F⟩,
   ⟨0xF4, 8, 0x300001ED3000301001ED1000303001ED7000309001ED5⟩,
   ⟨0xF5, 6, 0x301001E4D00030400022D000308001E4F⟩,
   ⟨0xF6, 2, 0x30400022B⟩,
   ⟨0xF8, 2, 0x3010001FF⟩,
   ⟨0xFC, 8, 0x3000001DC0003010001D80003040001D600030C0001DA⟩,
   ⟨0x102, 8, 0x300001EB0000301001EAE000303001EB4000309001EB2⟩,
   ⟨0x103, 8, 0x300001EB1000301001EAF000303001EB5000309001EB3⟩,
   ⟨0x112, 4, 0x300001E14000301001E16⟩,
   ⟨0x113, 4, 0x300001E15000301001E17⟩,
   ⟨0x14C, 4, 0x300001E50000301001E52⟩,
   ⟨0x14D, 4, 0x300001E51000301001E53⟩,
   ⟨0x15A, 2, 0x307001E64⟩,
   ⟨0x15B, 2, 0x307001E65⟩,
   ⟨0x160, 2, 0x307001E66⟩,
   ⟨0x161, 2, 0x307001E67⟩,
   ⟨0x168, 2, 0x301001E78⟩,
   ⟨0x169, 2, 0x301001E79⟩,
   ⟨0x16A, 2, 0x308001E7A⟩,
   ⟨0x16B, 2, 0x308001E7B⟩,
   ⟨0x17F, 2, 0x307001E9B⟩,
   ⟨0x1A0, 10, 0x300001EDC000301001EDA000303001EE0000309001EDE000323001EE2⟩,
   ⟨0x1A1, 10, 0x300001EDD000301001EDB000303001EE1000309001EDF000323001EE3⟩,
   ⟨0x1AF, 10, 0x300001EEA000301001EE8000303001EEE000309001EEC000323001EF0⟩,
   ⟨0x1B0, 10, 0x300001EEB000301001EE9000303001EEF000309001EED000323001EF1⟩,
   ⟨0x1B7, 2, 0x30C0001EE⟩,
   ⟨0x1EA, 2, 0x3040001EC⟩,
   ⟨0x1EB, 2, 0x3040001ED⟩,
   ⟨0x226, 2, 0x3040001E0⟩,
   ⟨0x227, 2, 0x3040001E1⟩,
   ⟨0x228, 2, 0x306001E1C⟩,
   ⟨0x229, 2, 0x306001E1D⟩,
   ⟨0x22E, 2, 0x304000230⟩,
   ⟨0x22F, 2, 0x304000231⟩,
   ⟨0x292, 2, 0x30C0001EF⟩,
   ⟨0x391, 12, 0x300001FBA000301000386000304001FB9000306001FB8000313001F08000314001F09⟩,
   ⟨0x391, 2, 0x345001FBC⟩,
   ⟨0x395, 8, 0x300001FC8000301000388000313001F18000314001F19⟩,
   ⟨0x397, 10, 0x300001FCA000301000389000313001F28000314001F29000345001FCC⟩,
   ⟨0x399, 12, 0x300001FDA00030100038A000304001FD9000306001FD80003080003AA000313001F38⟩,
   ⟨0x399, 2, 0x314001F39⟩,
   ⟨0x39F, 8, 0x300001FF800030100038C000313001F48000314001F49⟩,
   ⟨0x3A1, 2, 0x314001FEC⟩,
   ⟨0x3A5, 12, 0x300001FEA00030100038E000304001FE9000306001FE80003080003AB000314001F59⟩,
   ⟨0x3A9, 10, 0x300001FFA00030100038F000313001F68000314001F69000345001FFC⟩,
   ⟨0x3AC, 2, 0x345001FB4⟩,
   ⟨0x3AE, 2, 0x345001FC4⟩,
   ⟨0x3B1, 12, 0x300001F700003010003AC000304001FB1000306001FB0000313001F00000314001F01⟩,
   ⟨0x3B1, 4, 0x342001FB6000345001FB3⟩,
   ⟨0x3B5, 8, 0x300001F720003010003AD000313001F10000314001F11⟩,
   ⟨0x3B7, 12, 0x300001F740003010003AE000313001F20000314001F21000342001FC6000345001FC3⟩,
   ⟨0x3B9, 12, 0x300001F760003010003AF000304001FD1000306001FD00003080003CA000313001F30⟩,
   ⟨0x3B9, 4, 0x314001F31000342001FD6⟩,
   ⟨0x3BF, 8, 0x300001F780003010003CC000313001F40000314001F41⟩,
   ⟨0x3C1, 4, 0x313001FE4000314001FE5⟩,
   ⟨0x3C5, 12, 0x300001F7A0003010003CD000304001FE1000306001FE00003080003CB000313001F50⟩,
   ⟨0x3C5, 4, 0x314001F51000342001FE6⟩,
   ⟨0x3C9, 12, 0x300001F7C0003010003CE000313001F60000314001F61000342001FF6000345001FF3⟩,
   ⟨0x3CA, 6, 0x300001FD2000301000390000342001FD7⟩,
   ⟨0x3CB, 6, 0x300001FE20003010003B0000342001FE7⟩,
   ⟨0x3CE, 2, 0x345001FF4⟩,
   ⟨0x3D2, 4, 0x3010003D30003080003D4⟩,
   ⟨0x406, 2, 0x308000407⟩,
   ⟨0x410, 4, 0x3060004D00003080004D2⟩,
   ⟨0x413, 2, 0x301000403⟩,
   ⟨0x415, 6, 0x3000004000003060004D6000308000401⟩,
   ⟨0x416, 4, 0x3060004C10003080004DC⟩,
   ⟨0x417, 2, 0x3080004DE⟩,
   ⟨0x418, 8, 0x30000040D0003040004E20003060004190003080004E4⟩,
   ⟨0x41A, 2, 0x30100040C⟩,
   ⟨0x41E, 2, 0x3080004E6⟩,
   ⟨0x423, 8, 0x3040004EE00030600040E0003080004F000030B0004F2⟩,
   ⟨0x427, 2, 0x3080004F4⟩,
   ⟨0x42B, 2, 0x3080004F8⟩,
   ⟨0x42D, 2, 0x3080004EC⟩,
   ⟨0x430, 4, 0x3060004D10003080004D3⟩,
   ⟨0x433, 2, 0x301000453⟩,
   ⟨0x435, 6, 0x3000004500003060004D7000308000451⟩,
   ⟨0x436, 4, 0x3060004C20003080004DD⟩,
   ⟨0x437, 2, 0x3080004DF⟩,
   ⟨0x438, 8, 0x30000045D0003040004E30003060004390003080004E5⟩,
   ⟨0x43A, 2, 0x30100045C⟩,
   ⟨0x43E, 2, 0x3080004E7⟩,
   ⟨0x443, 8, 0x3040004EF00030600045E0003080004F100030B0004F3⟩,
   ⟨0x447, 2, 0x3080004F5⟩,
   ⟨0x44B, 2, 0x3080004F9⟩,
   ⟨0x44D, 2, 0x3080004ED⟩,
   ⟨0x456, 2, 0x308000457⟩,
   ⟨0x474, 2, 0x30F000476⟩,
   ⟨0x475, 2, 0x30F000477⟩,
   ⟨0x4D8, 2, 0x3080004DA⟩,
   ⟨0x4D9, 2, 0x3080004DB⟩,
   ⟨0x4E8, 2, 0x3080004EA⟩,
   ⟨0x4E9, 2, 0x3080004EB⟩,
   ⟨0x627, 6, 0x653000622000654000623000655000625⟩,
   ⟨0x648, 2, 0x654000624⟩,
   ⟨0x64A, 2, 0x654000626⟩,
   ⟨0x6C1, 2, 0x6540006C2⟩,
   ⟨0x6D2, 2, 0x6540006D3⟩,
   ⟨0x6D5, 2, 0x6540006C0⟩,
   ⟨0x928, 2, 0x93C000929⟩,
   ⟨0x930, 2, 0x93C000931⟩,
   ⟨0x933, 2, 0x93C000934⟩,
   ⟨0x9C7, 4, 0x9BE0009CB0009D70009CC⟩,
   ⟨0xB47, 6, 0xB3E000B4B000B56000B48000B57000B4C⟩,
   ⟨0xB92, 2, 0xBD7000B94⟩,
   ⟨0xBC6, 4, 0xBBE000BCA000BD7000BCC⟩,
   ⟨0xBC7, 2, 0xBBE000BCB⟩,
   ⟨0xC46, 2, 0xC56000C48⟩,
   ⟨0xCBF, 2, 0xCD5000CC0⟩,
   ⟨0xCC6, 6, 0xCC2000CCA000CD5000CC7000CD6000CC8⟩,
   ⟨0xCCA, 2, 0xCD5000CCB⟩,
   ⟨0xD46, 4, 0xD3E000D4A000D57000D4C⟩,
   ⟨0xD47, 2, 0xD3E000D4B⟩,
   ⟨0xDD9, 6, 0xDCA000DDA000DCF000DDC000DDF000DDE⟩,
   ⟨0xDDC, 2, 0xDCA000DDD⟩,
   ⟨0x1025, 2, 0x102E001026⟩,
   ⟨0x1B05, 2, 0x1B35001B06⟩,
   ⟨0x1B07, 2, 0x1B35001B08⟩,
   ⟨0x1B09, 2, 0x1B35001B0A⟩,
   ⟨0x1B0B, 2, 0x1B35001B0C⟩,
   ⟨0x1B0D, 2, 0x1B35001B0E⟩,
   ⟨0x1B11, 2, 0x1B35001B12⟩,
   ⟨0x1B3A, 2, 0x1B35001B3B⟩,
   ⟨0x1B3C, 2, 0x1B35001B3D⟩,
   ⟨0x1B3E, 2, 0x1B35001B40⟩,
   ⟨0x1B3F, 2, 0x1B35001B41⟩,
   ⟨0x1B42, 2, 0x1B35001B43⟩,
   ⟨0x1E36, 2, 0x304001E38⟩,
   ⟨0x1E37, 2, 0x304001E39⟩,
   ⟨0x1E5A, 2, 0x304001E5C⟩,
   ⟨0x1E5B, 2, 0x304001E5D⟩,
   ⟨0x1E62, 2, 0x307001E68⟩,
   ⟨0x1E63, 2, 0x307001E69⟩,
   ⟨0x1EA0, 4, 0x302001EAC000306001EB6⟩,
   ⟨0x1EA1, 4, 0x302001EAD000306001EB7⟩,
   ⟨0x1EB8, 2, 0x302001EC6⟩,
   ⟨0x1EB9, 2, 0x302001EC7⟩,
   ⟨0x1ECC, 2, 0x302001ED8⟩,
   ⟨0x1ECD, 2, 0x302001ED9⟩,
   ⟨0x1F00, 8, 0x300001F02000301001F04000342001F06000345001F80⟩,
   ⟨0x1F01, 8, 0x300001F03000301001F05000342001F07000345001F81⟩,
   ⟨0x1F02, 2, 0x345001F82⟩,
   ⟨0x1F03, 2, 0x345001F83⟩,
   ⟨0x1F04, 2, 0x345001F84⟩,
   ⟨0x1F05, 2, 0x345001F85⟩,
   ⟨0x1F06, 2, 0x345001F86⟩,
   ⟨0x1F07, 2, 0x345001F87⟩,
   ⟨0x1F08, 8, 0x300001F0A000301001F0C000342001F0E000345001F88⟩,
   ⟨0x1F09, 8, 0x300001F0B000301001F0D000342001F0F000345001F89⟩,
   ⟨0x1F0A, 2, 0x345001F8A⟩,
   ⟨0x1F0B, 2, 0x345001F8B⟩,
   ⟨0x1F0C, 2, 0x345001F8C⟩,
   ⟨0x1F0D, 2, 0x345001F8D⟩,
   ⟨0x1F0E, 2, 0x345001F8E⟩,
   ⟨0x1F0F, 2, 0x345001F8F⟩,
   ⟨0x1F10, 4, 0x300001F12000301001F14⟩,
   ⟨0x1F11, 4, 0x300001F13000301001F15⟩,
   ⟨0x1F18, 4, 0x300001F1A000301001F1C⟩,
   ⟨0x1F19, 4, 0x300001F1B000301001F1D⟩,
   ⟨0x1F20, 8, 0x300001F22000301001F24000342001F26000345001F90⟩,
   ⟨0x1F21, 8, 0x300001F23000301001F25000342001F27000345001F91⟩,
   ⟨0x1F22, 2, 0x345001F92⟩,
   ⟨0x1F23, 2, 0x345001F93⟩,
   ⟨0x1F24, 2, 0x345001F94⟩,
   ⟨0x1F25, 2, 0x345001F95⟩,
   ⟨0x1F26, 2, 0x345001F96⟩,
   ⟨0x1F27, 2, 0x345001F97⟩,
   ⟨0x1F28, 8, 0x300001F2A000301001F2C000342001F2E000345001F98⟩,
   ⟨0x1F29, 8, 0x300001F2B000301001F2D000342001F2F000345001F99⟩,
   ⟨0x1F2A, 2, 0x345001F9A⟩,
   ⟨0x1F2B, 2, 0x345001F9B⟩,
   ⟨0x1F2C, 2, 0x345001F9C⟩,
   ⟨0x1F2D, 2, 0x345001F9D⟩,
   ⟨0x1F2E, 2, 0x345001F9E⟩,
   ⟨0x1F2F, 2, 0x345001F9F⟩,
   ⟨0x1F30, 6, 0x300001F32000301001F34000342001F36⟩,
   ⟨0x1F31, 6, 0x300001F33000301001F35000342001F37⟩,
   ⟨0x1F38, 6, 0x300001F3A000301001F3C000342001F3E⟩,
   ⟨0x1F39, 6, 0x300001F3B000301001F3D000342001F3F⟩,
   ⟨0x1F40, 4, 0x300001F42000301001F44⟩,
   ⟨0x1F41, 4, 0x300001F43000301001F45⟩,
   ⟨0x1F48, 4, 0x300001F4A000301001F4C⟩,
   ⟨0x1F49, 4, 0x300001F4B000301001F4D⟩,
   ⟨0x1F50, 6, 0x300001F52000301001F54000342001F56⟩,
   ⟨0x1F51, 6, 0x300001F53000301001F55000342001F57⟩,
   ⟨0x1F59, 6, 0x300001F5B000301001F5D000342001F5F⟩,
   ⟨0x1F60, 8, 0x300001F62000301001F64000342001F66000345001FA0⟩,
   ⟨0x1F61, 8, 0x300001F63000301001F65000342001F67000345001FA1⟩,
   ⟨0x1F62, 2, 0x345001FA2⟩,
   ⟨0x1F63, 2, 0x345001FA3⟩,
   ⟨0x1F64, 2, 0x345001FA4⟩,
   ⟨0x1F65, 2, 0x345001FA5⟩,
   ⟨0x1F66, 2, 0x345001FA6⟩,
   ⟨0x1F67, 2, 0x345001FA7⟩,
   ⟨0x1F68, 8, 0x300001F6A000301001F6C000342001F6E000345001FA8⟩,
   ⟨0x1F69, 8, 0x300001F6B000301001F6D000342001F6F000345001FA9⟩,
   ⟨0x1F6A, 2, 0x345001FAA⟩,
   ⟨0x1F6B, 2, 0x345001FAB⟩,
   ⟨0x1F6C, 2, 0x345001FAC⟩,
   ⟨0x1F6D, 2, 0x345001FAD⟩,
   ⟨0x1F6E, 2, 0x345001FAE⟩,
   ⟨0x1F6F, 2, 0x345001FAF⟩,
   ⟨0x1F70, 2, 0x345001FB2⟩,
   ⟨0x1F74, 2, 0x345001FC2⟩,
   ⟨0x1F7C, 2, 0x345001FF2⟩,
   ⟨0x1FB6, 2, 0x345001FB7⟩,
   ⟨0x1FBF, 6, 0x300001FCD000301001FCE000342001FCF⟩,
   ⟨0x1FC6, 2, 0x345001FC7⟩,
   ⟨0x1FF6, 2, 0x345001FF7⟩,
   ⟨0x1FFE, 6, 0x300001FDD000301001FDE000342001FDF⟩,
   ⟨0x2190, 2, 0x33800219A⟩,
   ⟨0x2192, 2, 0x33800219B⟩,
   ⟨0x2194, 2, 0x3380021AE⟩,
   ⟨0x21D0, 2, 0x3380021CD⟩,
   ⟨0x21D2, 2, 0x3380021CF⟩,
   ⟨0x21D4, 2, 0x3380021CE⟩,
   ⟨0x2203, 2, 0x338002204⟩,
   ⟨0x2208, 2, 0x338002209⟩,
   ⟨0x220B, 2, 0x33800220C⟩,
   ⟨0x2223, 2, 0x338002224⟩,
   ⟨0x2225, 2, 0x338002226⟩,
   ⟨0x223C, 2, 0x338002241⟩,
   ⟨0x2243, 2, 0x338002244⟩,
   ⟨0x2245, 2, 0x338002247⟩,
   ⟨0x2248, 2, 0x338002249⟩,
   ⟨0x224D, 2, 0x33800226D⟩,
   ⟨0x2261, 2, 0x338002262⟩,
   ⟨0x2264, 2, 0x338002270⟩,
   ⟨0x2265, 2, 0x338002271⟩,
   ⟨0x2272, 2, 0x338002274⟩,
   ⟨0x2273, 2, 0x338002275⟩,
   ⟨0x2276, 2, 0x338002278⟩,
   ⟨0x2277, 2, 0x338002279⟩,
   ⟨0x227A, 2, 0x338002280⟩,
   ⟨0x227B, 2, 0x338002281⟩,
   ⟨0x227C, 2, 0x3380022E0⟩,
   ⟨0x227D, 2, 0x3380022E1⟩,
   ⟨0x2282, 2, 0x338002284⟩,
   ⟨0x2283, 2, 0x338002285⟩,
   ⟨0x2286, 2, 0x338002288⟩,
   ⟨0x2287, 2, 0x338002289⟩,
   ⟨0x2291, 2, 0x3380022E2⟩,
   ⟨0x2292, 2, 0x3380022E3⟩,
   ⟨0x22A2, 2, 0x3380022AC⟩,
   ⟨0x22A8, 2, 0x3380022AD⟩,
   ⟨0x22A9, 2, 0x3380022AE⟩,
   ⟨0x22AB, 2, 0x3380022AF⟩,
   ⟨0x22B2, 2, 0x3380022EA⟩,
   ⟨0x22B3, 2, 0x3380022EB⟩,
   ⟨0x22B4, 2, 0x3380022EC⟩,
   ⟨0x22B5, 2, 0x3380022ED⟩,
   ⟨0x3046, 2, 0x3099003094⟩,
   ⟨0x304B, 2, 0x309900304C⟩,
   ⟨0x304D, 2, 0x309900304E⟩,
   ⟨0x304F, 2, 0x3099003050⟩,
   ⟨0x3051, 2, 0x3099003052⟩,
   ⟨0x3053, 2, 0x3099003054⟩,
   ⟨0x3055, 2, 0x3099003056⟩,
   ⟨0x3057, 2, 0x3099003058⟩,
   ⟨0x3059, 2, 0x309900305A⟩,
   ⟨0x305B, 2, 0x309900305C⟩,
   ⟨0x305D, 2, 0x309900305E⟩,
   ⟨0x305F, 2, 0x3099003060⟩,
   ⟨0x3061, 2, 0x3099003062⟩,
   ⟨0x3064, 2, 0x3099003065⟩,
   ⟨0x3066, 2, 0x3099003067⟩,
   ⟨0x3068, 2, 0x3099003069⟩,
   ⟨0x306F, 4, 0x309900307000309A003071⟩,
   ⟨0x3072, 4, 0x309900307300309A003074⟩,
   ⟨0x3075, 4, 0x309900307600309A003077⟩,
   ⟨0x3078, 4, 0x309900307900309A00307A⟩,
   ⟨0x307B, 4, 0x309900307C00309A00307D⟩,
   ⟨0x309D, 2, 0x309900309E⟩,
   ⟨0x30A6, 2, 0x30990030F4⟩,
   ⟨0x30AB, 2, 0x30990030AC⟩,
   ⟨0x30AD, 2, 0x30990030AE⟩,
   ⟨0x30AF, 2, 0x30990030B0⟩,
   ⟨0x30B1, 2, 0x30990030B2⟩,
   ⟨0x30B3, 2, 0x30990030B4⟩,
   ⟨0x30B5, 2, 0x30990030B6⟩,
   ⟨0x30B7, 2, 0x30990030B8⟩,
   ⟨0x30B9, 2, 0x30990030BA⟩,
   ⟨0x30BB, 2, 0x30990030BC⟩,
   ⟨0x30BD, 2, 0x30990030BE⟩,
   ⟨0x30BF, 2, 0x30990030C0⟩,
   ⟨0x30C1, 2, 0x30990030C2⟩,
   ⟨0x30C4, 2, 0x30990030C5⟩,
   ⟨0x30C6, 2, 0x30990030C7⟩,
   ⟨0x30C8, 2, 0x30990030C9⟩,
   ⟨0x30CF, 4, 0x30990030D000309A0030D1⟩,
   ⟨0x30D2, 4, 0x30990030D300309A0030D4⟩,
   ⟨0x30D5, 4, 0x30990030D600309A0030D7⟩,
   ⟨0x30D8, 4, 0x30990030D900309A0030DA⟩,
   ⟨0x30DB, 4, 0x30990030DC00309A0030DD⟩,
   ⟨0x30EF, 2, 0x30990030F7⟩,
   ⟨0x30F0, 2, 0x30990030F8⟩,
   ⟨0x30F1, 2, 0x30990030F9⟩,
   ⟨0x30F2, 2, 0x30990030FA⟩,
   ⟨0x30FD, 2, 0x30990030FE⟩,
   ⟨0x11099, 2, 0x110BA01109A⟩,
   ⟨0x1109B, 2, 0x110BA01109C⟩,
   ⟨0x110A5, 2, 0x110BA0110AB⟩,
   ⟨0x11131, 2, 0x1112701112E⟩,
   ⟨0x11132, 2, 0x1112701112F⟩,
   ⟨0x11347, 4, 0x1133E01134B01135701134C⟩,
   ⟨0x114B9, 6, 0x114B00114BC0114BA0114BB0114BD0114BE⟩,
   ⟨0x115B8, 2, 0x115AF0115BA⟩,
   ⟨0x115B9, 2, 0x115AF0115BB⟩,
   ⟨0x11935, 2, 0x11930011938⟩]

/-- The single character that a letter and a following character make, if any.
The syllables of the Korean script are computed. -/
def composePair? (a b : Char) : Option Char :=
  if 0x1100 ≤ a.toNat && a.toNat < 0x1113 && 0x1161 ≤ b.toNat && b.toNat < 0x1176 then
    some (Char.ofNat (0xAC00 + ((a.toNat - 0x1100) * 21 + (b.toNat - 0x1161)) * 28))
  else if 0xAC00 ≤ a.toNat && a.toNat ≤ 0xD7A3 && (a.toNat - 0xAC00) % 28 == 0
      && 0x11A7 < b.toNat && b.toNat < 0x11C3 then
    some (Char.ofNat (a.toNat + (b.toNat - 0x11A7)))
  else
    ((compositionRows.filter (·.first == a.toNat)).findSome? fun row =>
      pairedWith b.toNat row.units).map Char.ofNat

end FeatureGrant.Text
