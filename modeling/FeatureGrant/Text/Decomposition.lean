import FeatureGrant.Text.CodePoint

/-!
# Compatibility decomposition

The full compatibility decompositions of Unicode 3.2, which is the version
that prepared host names are bound to.  The syllables of the Korean script are
not listed: their decomposition is arithmetic.
-/

namespace FeatureGrant.Text

/-- Spelled-out decompositions from U+00A0 on. -/
def decompositionRows1 : List ImageRow :=
  [⟨0xA0, 1, 0x20⟩,
   ⟨0xA8, 2, 0x800020000308⟩,
   ⟨0xAA, 1, 0x61⟩,
   ⟨0xAF, 2, 0x800020000304⟩,
   ⟨0xB2, 5, 0x320000338000200003010003BC⟩,
   ⟨0xB8, 4, 0x80002000032700003100006F⟩,
   ⟨0xBC, 9, 0x800031802044000034800031802044000032800033802044000034⟩,
   ⟨0xC0, 12, 0x80004100030080004100030180004100030280004100030380004100030880004100030A⟩,
   ⟨0xC7, 12, 0x800043000327800045000300800045000301800045000302800045000308800049000300⟩,
   ⟨0xCD, 6, 0x800049000301800049000302800049000308⟩,
   ⟨0xD1, 12, 0x80004E00030380004F00030080004F00030180004F00030280004F00030380004F000308⟩,
   ⟨0xD9, 10, 0x800055000300800055000301800055000302800055000308800059000301⟩,
   ⟨0xE0, 12, 0x80006100030080006100030180006100030280006100030380006100030880006100030A⟩,
   ⟨0xE7, 12, 0x800063000327800065000300800065000301800065000302800065000308800069000300⟩,
   ⟨0xED, 6, 0x800069000301800069000302800069000308⟩,
   ⟨0xF1, 12, 0x80006E00030380006F00030080006F00030180006F00030280006F00030380006F000308⟩,
   ⟨0xF9, 10, 0x800075000300800075000301800075000302800075000308800079000301⟩,
   ⟨0xFF, 12, 0x800079000308800041000304800061000304800041000306800061000306800041000328⟩,
   ⟨0x105, 12, 0x800061000328800043000301800063000301800043000302800063000302800043000307⟩,
   ⟨0x10B, 10, 0x80006300030780004300030C80006300030C80004400030C80006400030C⟩,
   ⟨0x112, 12, 0x800045000304800065000304800045000306800065000306800045000307800065000307⟩,
   ⟨0x118, 12, 0x80004500032880006500032880004500030C80006500030C800047000302800067000302⟩,
   ⟨0x11E, 12, 0x800047000306800067000306800047000307800067000307800047000327800067000327⟩,
   ⟨0x124, 4, 0x800048000302800068000302⟩,
   ⟨0x128, 12, 0x800049000303800069000303800049000304800069000304800049000306800069000306⟩,
   ⟨0x12E, 6, 0x800049000328800069000328800049000307⟩,
   ⟨0x132, 12, 0x80004900004A80006900006A80004A00030280006A00030280004B00032780006B000327⟩,
   ⟨0x139, 12, 0x80004C00030180006C00030180004C00032780006C00032780004C00030C80006C00030C⟩,
   ⟨0x13F, 4, 0x80004C0000B780006C0000B7⟩,
   ⟨0x143, 12, 0x80004E00030180006E00030180004E00032780006E00032780004E00030C80006E00030C⟩,
   ⟨0x149, 2, 0x8002BC00006E⟩,
   ⟨0x14C, 12, 0x80004F00030480006F00030480004F00030680006F00030680004F00030B80006F00030B⟩,
   ⟨0x154, 12, 0x80005200030180007200030180005200032780007200032780005200030C80007200030C⟩,
   ⟨0x15A, 12, 0x800053000301800073000301800053000302800073000302800053000327800073000327⟩,
   ⟨0x160, 12, 0x80005300030C80007300030C80005400032780007400032780005400030C80007400030C⟩,
   ⟨0x168, 12, 0x800055000303800075000303800055000304800075000304800055000306800075000306⟩,
   ⟨0x16E, 12, 0x80005500030A80007500030A80005500030B80007500030B800055000328800075000328⟩,
   ⟨0x174, 12, 0x80005700030280007700030280005900030280007900030280005900030880005A000301⟩,
   ⟨0x17A, 11, 0x80007A00030180005A00030780007A00030780005A00030C80007A00030C000073⟩,
   ⟨0x1A0, 4, 0x80004F00031B80006F00031B⟩,
   ⟨0x1AF, 4, 0x80005500031B80007500031B⟩,
   ⟨0x1C4, 11, 0x80004480005A00030C80004480007A00030C80006480007A00030C80004C00004A⟩,
   ⟨0x1C8, 12, 0x80004C00006A80006C00006A80004E00004A80004E00006A80006E00006A80004100030C⟩,
   ⟨0x1CE, 12, 0x80006100030C80004900030C80006900030C80004F00030C80006F00030C80005500030C⟩,
   ⟨0x1D4, 11, 0x80007500030C800055800308000304800075800308000304800055800308000301⟩,
   ⟨0x1D8, 12, 0x80007580030800030180005580030800030C80007580030800030C800055800308000300⟩,
   ⟨0x1DC, 3, 0x800075800308000300⟩,
   ⟨0x1DE, 12, 0x800041800308000304800061800308000304800041800307000304800061800307000304⟩,
   ⟨0x1E2, 4, 0x8000C60003048000E6000304⟩,
   ⟨0x1E6, 12, 0x80004700030C80006700030C80004B00030C80006B00030C80004F00032880006F000328⟩,
   ⟨0x1EC, 12, 0x80004F80032800030480006F8003280003048001B700030C80029200030C80006A00030C⟩,
   ⟨0x1F1, 10, 0x80004400005A80004400007A80006400007A800047000301800067000301⟩,
   ⟨0x1F8, 12, 0x80004E00030080006E00030080004180030A00030180006180030A0003018000C6000301⟩,
   ⟨0x1FD, 12, 0x8000E60003018000D80003018000F800030180004100030F80006100030F800041000311⟩,
   ⟨0x203, 12, 0x80006100031180004500030F80006500030F80004500031180006500031180004900030F⟩,
   ⟨0x209, 12, 0x80006900030F80004900031180006900031180004F00030F80006F00030F80004F000311⟩,
   ⟨0x20F, 12, 0x80006F00031180005200030F80007200030F80005200031180007200031180005500030F⟩,
   ⟨0x215, 12, 0x80007500030F800055000311800075000311800053000326800073000326800054000326⟩,
   ⟨0x21B, 2, 0x800074000326⟩,
   ⟨0x21E, 4, 0x80004800030C80006800030C⟩,
   ⟨0x226, 11, 0x80004100030780006100030780004500032780006500032780004F800308000304⟩,
   ⟨0x22B, 11, 0x80006F80030800030480004F80030300030480006F80030300030480004F000307⟩,
   ⟨0x22F, 12, 0x80006F00030780004F80030700030480006F800307000304800059000304800079000304⟩,
   ⟨0x2B0, 9, 0x6800026600006A00007200027900027B000281000077000079⟩,
   ⟨0x2D8, 12, 0x80002000030680002000030780002000030A80002000032880002000030380002000030B⟩,
   ⟨0x2E0, 5, 0x26300006C000073000078000295⟩,
   ⟨0x340, 2, 0x300000301⟩,
   ⟨0x343, 3, 0x313800308000301⟩,
   ⟨0x374, 1, 0x2B9⟩,
   ⟨0x37A, 2, 0x800020000345⟩,
   ⟨0x37E, 1, 0x3B⟩,
   ⟨0x384, 12, 0x8000200003018000208003080003018003910003010000B7800395000301800397000301⟩,
   ⟨0x38A, 2, 0x800399000301⟩,
   ⟨0x38C, 2, 0x80039F000301⟩,
   ⟨0x38E, 7, 0x8003A50003018003A90003018003B9800308000301⟩,
   ⟨0x3AA, 12, 0x8003990003088003A50003088003B10003018003B50003018003B70003018003B9000301⟩,
   ⟨0x3B0, 3, 0x8003C5800308000301⟩,
   ⟨0x3CA, 10, 0x8003B90003088003C50003088003BF0003018003C50003018003C9000301⟩,
   ⟨0x3D0, 9, 0x3B20003B80003A58003A50003018003A50003080003C60003C0⟩,
   ⟨0x3F0, 3, 0x3BA0003C10003C2⟩,
   ⟨0x3F4, 2, 0x3980003B5⟩,
   ⟨0x400, 4, 0x800415000300800415000308⟩,
   ⟨0x403, 2, 0x800413000301⟩,
   ⟨0x407, 2, 0x800406000308⟩,
   ⟨0x40C, 6, 0x80041A000301800418000300800423000306⟩,
   ⟨0x419, 2, 0x800418000306⟩,
   ⟨0x439, 2, 0x800438000306⟩,
   ⟨0x450, 4, 0x800435000300800435000308⟩,
   ⟨0x453, 2, 0x800433000301⟩,
   ⟨0x457, 2, 0x800456000308⟩,
   ⟨0x45C, 6, 0x80043A000301800438000300800443000306⟩,
   ⟨0x476, 4, 0x80047400030F80047500030F⟩,
   ⟨0x4C1, 4, 0x800416000306800436000306⟩,
   ⟨0x4D0, 8, 0x800410000306800430000306800410000308800430000308⟩,
   ⟨0x4D6, 4, 0x800415000306800435000306⟩,
   ⟨0x4DA, 12, 0x8004D80003088004D9000308800416000308800436000308800417000308800437000308⟩,
   ⟨0x4E2, 12, 0x80041800030480043800030480041800030880043800030880041E00030880043E000308⟩,
   ⟨0x4EA, 12, 0x8004E80003088004E900030880042D00030880044D000308800423000304800443000304⟩,
   ⟨0x4F0, 12, 0x80042300030880044300030880042300030B80044300030B800427000308800447000308⟩,
   ⟨0x4F8, 4, 0x80042B00030880044B000308⟩,
   ⟨0x587, 2, 0x800565000582⟩,
   ⟨0x622, 10, 0x80062700065380062700065480064800065480062700065580064A000654⟩,
   ⟨0x675, 8, 0x8006270006748006480006748006C700067480064A000674⟩,
   ⟨0x6C0, 2, 0x8006D5000654⟩,
   ⟨0x6C2, 2, 0x8006C1000654⟩,
   ⟨0x6D3, 2, 0x8006D2000654⟩,
   ⟨0x929, 2, 0x80092800093C⟩,
   ⟨0x931, 2, 0x80093000093C⟩,
   ⟨0x934, 2, 0x80093300093C⟩,
   ⟨0x958, 12, 0x80091500093C80091600093C80091700093C80091C00093C80092100093C80092200093C⟩,
   ⟨0x95E, 4, 0x80092B00093C80092F00093C⟩,
   ⟨0x9CB, 4, 0x8009C70009BE8009C70009D7⟩,
   ⟨0x9DC, 4, 0x8009A10009BC8009A20009BC⟩,
   ⟨0x9DF, 2, 0x8009AF0009BC⟩,
   ⟨0xA33, 2, 0x800A32000A3C⟩,
   ⟨0xA36, 2, 0x800A38000A3C⟩,
   ⟨0xA59, 6, 0x800A16000A3C800A17000A3C800A1C000A3C⟩,
   ⟨0xA5E, 2, 0x800A2B000A3C⟩,
   ⟨0xB48, 2, 0x800B47000B56⟩,
   ⟨0xB4B, 4, 0x800B47000B3E800B47000B57⟩]

/-- Spelled-out decompositions from U+0B5C on. -/
def decompositionRows2 : List ImageRow :=
  [⟨0xB5C, 4, 0x800B21000B3C800B22000B3C⟩,
   ⟨0xB94, 2, 0x800B92000BD7⟩,
   ⟨0xBCA, 6, 0x800BC6000BBE800BC7000BBE800BC6000BD7⟩,
   ⟨0xC48, 2, 0x800C46000C56⟩,
   ⟨0xCC0, 2, 0x800CBF000CD5⟩,
   ⟨0xCC7, 4, 0x800CC6000CD5800CC6000CD6⟩,
   ⟨0xCCA, 5, 0x800CC6000CC2800CC6800CC2000CD5⟩,
   ⟨0xD4A, 6, 0x800D46000D3E800D47000D3E800D46000D57⟩,
   ⟨0xDDA, 2, 0x800DD9000DCA⟩,
   ⟨0xDDC, 7, 0x800DD9000DCF800DD9800DCF000DCA800DD9000DDF⟩,
   ⟨0xE33, 2, 0x800E4D000E32⟩,
   ⟨0xEB3, 2, 0x800ECD000EB2⟩,
   ⟨0xEDC, 4, 0x800EAB000E99800EAB000EA1⟩,
   ⟨0xF0C, 1, 0xF0B⟩,
   ⟨0xF43, 2, 0x800F42000FB7⟩,
   ⟨0xF4D, 2, 0x800F4C000FB7⟩,
   ⟨0xF52, 2, 0x800F51000FB7⟩,
   ⟨0xF57, 2, 0x800F56000FB7⟩,
   ⟨0xF5C, 2, 0x800F5B000FB7⟩,
   ⟨0xF69, 2, 0x800F40000FB5⟩,
   ⟨0xF73, 2, 0x800F71000F72⟩,
   ⟨0xF75, 12, 0x800F71000F74800FB2000F80800FB2800F71000F80800FB3000F80800FB3800F71000F80⟩,
   ⟨0xF81, 2, 0x800F71000F80⟩,
   ⟨0xF93, 2, 0x800F92000FB7⟩,
   ⟨0xF9D, 2, 0x800F9C000FB7⟩,
   ⟨0xFA2, 2, 0x800FA1000FB7⟩,
   ⟨0xFA7, 2, 0x800FA6000FB7⟩,
   ⟨0xFAC, 2, 0x800FAB000FB7⟩,
   ⟨0xFB9, 2, 0x800F90000FB5⟩,
   ⟨0x1026, 2, 0x80102500102E⟩,
   ⟨0x1E00, 12, 0x800041000325800061000325800042000307800062000307800042000323800062000323⟩,
   ⟨0x1E06, 12, 0x800042000331800062000331800043800327000301800063800327000301800044000307⟩,
   ⟨0x1E0B, 12, 0x800064000307800044000323800064000323800044000331800064000331800044000327⟩,
   ⟨0x1E11, 12, 0x80006400032780004400032D80006400032D800045800304000300800065800304000300⟩,
   ⟨0x1E16, 12, 0x80004580030400030180006580030400030180004500032D80006500032D800045000330⟩,
   ⟨0x1E1B, 12, 0x800065000330800045800327000306800065800327000306800046000307800066000307⟩,
   ⟨0x1E20, 12, 0x800047000304800067000304800048000307800068000307800048000323800068000323⟩,
   ⟨0x1E26, 12, 0x80004800030880006800030880004800032780006800032780004800032E80006800032E⟩,
   ⟨0x1E2C, 12, 0x80004900033080006900033080004980030800030180006980030800030180004B000301⟩,
   ⟨0x1E31, 12, 0x80006B00030180004B00032380006B00032380004B00033180006B00033180004C000323⟩,
   ⟨0x1E37, 12, 0x80006C00032380004C80032300030480006C80032300030480004C00033180006C000331⟩,
   ⟨0x1E3C, 12, 0x80004C00032D80006C00032D80004D00030180006D00030180004D00030780006D000307⟩,
   ⟨0x1E42, 12, 0x80004D00032380006D00032380004E00030780006E00030780004E00032380006E000323⟩,
   ⟨0x1E48, 11, 0x80004E00033180006E00033180004E00032D80006E00032D80004F800303000301⟩,
   ⟨0x1E4D, 12, 0x80006F80030300030180004F80030300030880006F80030300030880004F800304000300⟩,
   ⟨0x1E51, 11, 0x80006F80030400030080004F80030400030180006F800304000301800050000301⟩,
   ⟨0x1E55, 12, 0x800070000301800050000307800070000307800052000307800072000307800052000323⟩,
   ⟨0x1E5B, 12, 0x800072000323800052800323000304800072800323000304800052000331800072000331⟩,
   ⟨0x1E60, 11, 0x800053000307800073000307800053000323800073000323800053800301000307⟩,
   ⟨0x1E65, 12, 0x80007380030100030780005380030C00030780007380030C000307800053800323000307⟩,
   ⟨0x1E69, 11, 0x800073800323000307800054000307800074000307800054000323800074000323⟩,
   ⟨0x1E6E, 12, 0x80005400033180007400033180005400032D80007400032D800055000324800075000324⟩,
   ⟨0x1E74, 11, 0x80005500033080007500033080005500032D80007500032D800055800303000301⟩,
   ⟨0x1E79, 11, 0x800075800303000301800055800304000308800075800304000308800056000303⟩,
   ⟨0x1E7D, 12, 0x800076000303800056000323800076000323800057000300800077000300800057000301⟩,
   ⟨0x1E83, 12, 0x800077000301800057000308800077000308800057000307800077000307800057000323⟩,
   ⟨0x1E89, 12, 0x800077000323800058000307800078000307800058000308800078000308800059000307⟩,
   ⟨0x1E8F, 12, 0x80007900030780005A00030280007A00030280005A00032380007A00032380005A000331⟩,
   ⟨0x1E95, 12, 0x80007A00033180006800033180007400030880007700030A80007900030A8000610002BE⟩,
   ⟨0x1E9B, 2, 0x800073000307⟩,
   ⟨0x1EA0, 11, 0x800041000323800061000323800041000309800061000309800041800302000301⟩,
   ⟨0x1EA5, 12, 0x800061800302000301800041800302000300800061800302000300800041800302000309⟩,
   ⟨0x1EA9, 12, 0x800061800302000309800041800302000303800061800302000303800041800323000302⟩,
   ⟨0x1EAD, 12, 0x800061800323000302800041800306000301800061800306000301800041800306000300⟩,
   ⟨0x1EB1, 12, 0x800061800306000300800041800306000309800061800306000309800041800306000303⟩,
   ⟨0x1EB5, 11, 0x800061800306000303800041800323000306800061800323000306800045000323⟩,
   ⟨0x1EB9, 10, 0x800065000323800045000309800065000309800045000303800065000303⟩,
   ⟨0x1EBE, 12, 0x800045800302000301800065800302000301800045800302000300800065800302000300⟩,
   ⟨0x1EC2, 12, 0x800045800302000309800065800302000309800045800302000303800065800302000303⟩,
   ⟨0x1EC6, 12, 0x800045800323000302800065800323000302800049000309800069000309800049000323⟩,
   ⟨0x1ECB, 10, 0x80006900032380004F00032380006F00032380004F00030980006F000309⟩,
   ⟨0x1ED0, 12, 0x80004F80030200030180006F80030200030180004F80030200030080006F800302000300⟩,
   ⟨0x1ED4, 12, 0x80004F80030200030980006F80030200030980004F80030200030380006F800302000303⟩,
   ⟨0x1ED8, 12, 0x80004F80032300030280006F80032300030280004F80031B00030180006F80031B000301⟩,
   ⟨0x1EDC, 12, 0x80004F80031B00030080006F80031B00030080004F80031B00030980006F80031B000309⟩,
   ⟨0x1EE0, 12, 0x80004F80031B00030380006F80031B00030380004F80031B00032380006F80031B000323⟩,
   ⟨0x1EE4, 11, 0x80005500032380007500032380005500030980007500030980005580031B000301⟩,
   ⟨0x1EE9, 12, 0x80007580031B00030180005580031B00030080007580031B00030080005580031B000309⟩,
   ⟨0x1EED, 12, 0x80007580031B00030980005580031B00030380007580031B00030380005580031B000323⟩,
   ⟨0x1EF1, 11, 0x80007580031B000323800059000300800079000300800059000323800079000323⟩,
   ⟨0x1EF6, 8, 0x800059000309800079000309800059000303800079000303⟩,
   ⟨0x1F00, 10, 0x8003B10003138003B10003148003B18003130003008003B1800314000300⟩,
   ⟨0x1F04, 12, 0x8003B18003130003018003B18003140003018003B18003130003428003B1800314000342⟩,
   ⟨0x1F08, 10, 0x800391000313800391000314800391800313000300800391800314000300⟩,
   ⟨0x1F0C, 12, 0x800391800313000301800391800314000301800391800313000342800391800314000342⟩,
   ⟨0x1F10, 10, 0x8003B50003138003B50003148003B58003130003008003B5800314000300⟩,
   ⟨0x1F14, 6, 0x8003B58003130003018003B5800314000301⟩,
   ⟨0x1F18, 10, 0x800395000313800395000314800395800313000300800395800314000300⟩,
   ⟨0x1F1C, 6, 0x800395800313000301800395800314000301⟩,
   ⟨0x1F20, 10, 0x8003B70003138003B70003148003B78003130003008003B7800314000300⟩,
   ⟨0x1F24, 12, 0x8003B78003130003018003B78003140003018003B78003130003428003B7800314000342⟩,
   ⟨0x1F28, 10, 0x800397000313800397000314800397800313000300800397800314000300⟩,
   ⟨0x1F2C, 12, 0x800397800313000301800397800314000301800397800313000342800397800314000342⟩,
   ⟨0x1F30, 10, 0x8003B90003138003B90003148003B98003130003008003B9800314000300⟩,
   ⟨0x1F34, 12, 0x8003B98003130003018003B98003140003018003B98003130003428003B9800314000342⟩,
   ⟨0x1F38, 10, 0x800399000313800399000314800399800313000300800399800314000300⟩,
   ⟨0x1F3C, 12, 0x800399800313000301800399800314000301800399800313000342800399800314000342⟩,
   ⟨0x1F40, 10, 0x8003BF0003138003BF0003148003BF8003130003008003BF800314000300⟩,
   ⟨0x1F44, 6, 0x8003BF8003130003018003BF800314000301⟩,
   ⟨0x1F48, 10, 0x80039F00031380039F00031480039F80031300030080039F800314000300⟩,
   ⟨0x1F4C, 6, 0x80039F80031300030180039F800314000301⟩,
   ⟨0x1F50, 10, 0x8003C50003138003C50003148003C58003130003008003C5800314000300⟩,
   ⟨0x1F54, 12, 0x8003C58003130003018003C58003140003018003C58003130003428003C5800314000342⟩,
   ⟨0x1F59, 2, 0x8003A5000314⟩,
   ⟨0x1F5B, 3, 0x8003A5800314000300⟩,
   ⟨0x1F5D, 3, 0x8003A5800314000301⟩,
   ⟨0x1F5F, 10, 0x8003A58003140003428003C90003138003C90003148003C9800313000300⟩,
   ⟨0x1F63, 12, 0x8003C98003140003008003C98003130003018003C98003140003018003C9800313000342⟩,
   ⟨0x1F67, 10, 0x8003C98003140003428003A90003138003A90003148003A9800313000300⟩,
   ⟨0x1F6B, 12, 0x8003A98003140003008003A98003130003018003A98003140003018003A9800313000342⟩,
   ⟨0x1F6F, 11, 0x8003A98003140003428003B10003008003B10003018003B50003008003B5000301⟩,
   ⟨0x1F74, 12, 0x8003B70003008003B70003018003B90003008003B90003018003BF0003008003BF000301⟩,
   ⟨0x1F7A, 8, 0x8003C50003008003C50003018003C90003008003C9000301⟩,
   ⟨0x1F80, 10, 0x8003B18003130003458003B18003140003458003B1800313800300000345⟩,
   ⟨0x1F83, 12, 0x8003B18003148003000003458003B18003138003010003458003B1800314800301000345⟩,
   ⟨0x1F86, 11, 0x8003B18003138003420003458003B1800314800342000345800391800313000345⟩,
   ⟨0x1F89, 11, 0x800391800314000345800391800313800300000345800391800314800300000345⟩,
   ⟨0x1F8C, 12, 0x800391800313800301000345800391800314800301000345800391800313800342000345⟩,
   ⟨0x1F8F, 10, 0x8003918003148003420003458003B78003130003458003B7800314000345⟩,
   ⟨0x1F92, 12, 0x8003B78003138003000003458003B78003148003000003458003B7800313800301000345⟩]

/-- Spelled-out decompositions from U+1F95 on. -/
def decompositionRows3 : List ImageRow :=
  [⟨0x1F95, 12, 0x8003B78003148003010003458003B78003138003420003458003B7800314800342000345⟩,
   ⟨0x1F98, 10, 0x800397800313000345800397800314000345800397800313800300000345⟩,
   ⟨0x1F9B, 12, 0x800397800314800300000345800397800313800301000345800397800314800301000345⟩,
   ⟨0x1F9E, 11, 0x8003978003138003420003458003978003148003420003458003C9800313000345⟩,
   ⟨0x1FA1, 11, 0x8003C98003140003458003C98003138003000003458003C9800314800300000345⟩,
   ⟨0x1FA4, 12, 0x8003C98003138003010003458003C98003148003010003458003C9800313800342000345⟩,
   ⟨0x1FA7, 10, 0x8003C98003148003420003458003A98003130003458003A9800314000345⟩,
   ⟨0x1FAA, 12, 0x8003A98003138003000003458003A98003148003000003458003A9800313800301000345⟩,
   ⟨0x1FAD, 12, 0x8003A98003148003010003458003A98003138003420003458003A9800314800342000345⟩,
   ⟨0x1FB0, 12, 0x8003B10003068003B10003048003B18003000003458003B10003458003B1800301000345⟩,
   ⟨0x1FB6, 11, 0x8003B10003428003B1800342000345800391000306800391000304800391000300⟩,
   ⟨0x1FBB, 11, 0x8003910003018003910003458000200003130003B9800020000313800020000342⟩,
   ⟨0x1FC1, 11, 0x8000208003080003428003B78003000003458003B70003458003B7800301000345⟩,
   ⟨0x1FC6, 11, 0x8003B70003428003B7800342000345800395000300800395000301800397000300⟩,
   ⟨0x1FCB, 10, 0x800397000301800397000345800020800313000300800020800313000301⟩,
   ⟨0x1FCF, 10, 0x8000208003130003428003B90003068003B90003048003B9800308000300⟩,
   ⟨0x1FD3, 3, 0x8003B9800308000301⟩,
   ⟨0x1FD6, 11, 0x8003B90003428003B9800308000342800399000306800399000304800399000300⟩,
   ⟨0x1FDB, 2, 0x800399000301⟩,
   ⟨0x1FDD, 11, 0x8000208003140003008000208003140003018000208003140003428003C5000306⟩,
   ⟨0x1FE1, 12, 0x8003C50003048003C58003080003008003C58003080003018003C10003138003C1000314⟩,
   ⟨0x1FE6, 11, 0x8003C50003428003C58003080003428003A50003068003A50003048003A5000300⟩,
   ⟨0x1FEB, 11, 0x8003A50003018003A1000314800020800308000300800020800308000301000060⟩,
   ⟨0x1FF2, 8, 0x8003C98003000003458003C90003458003C9800301000345⟩,
   ⟨0x1FF6, 11, 0x8003C90003428003C980034200034580039F00030080039F0003018003A9000300⟩,
   ⟨0x1FFB, 8, 0x8003A90003018003A9000345800020000301800020000314⟩,
   ⟨0x2000, 11, 0x20000020000020000020000020000020000020000020000020000020000020⟩,
   ⟨0x2011, 1, 0x2010⟩,
   ⟨0x2017, 2, 0x800020000333⟩,
   ⟨0x2024, 6, 0x2E80002E00002E80002E80002E00002E⟩,
   ⟨0x202F, 1, 0x20⟩,
   ⟨0x2033, 5, 0x802032002032802032802032002032⟩,
   ⟨0x2036, 5, 0x802035002035802035802035002035⟩,
   ⟨0x203C, 2, 0x800021000021⟩,
   ⟨0x203E, 2, 0x800020000305⟩,
   ⟨0x2047, 6, 0x80003F00003F80003F00002180002100003F⟩,
   ⟨0x2057, 4, 0x802032802032802032002032⟩,
   ⟨0x205F, 1, 0x20⟩,
   ⟨0x2070, 2, 0x30000069⟩,
   ⟨0x207A, 6, 0x2B00221200003D00002800002900006E⟩,
   ⟨0x208A, 5, 0x2B00221200003D000028000029⟩,
   ⟨0x20A8, 2, 0x800052000073⟩,
   ⟨0x2100, 9, 0x80006180002F00006380006180002F0000730000438000B0000043⟩,
   ⟨0x2105, 7, 0x80006380002F00006F80006380002F000075000190⟩,
   ⟨0x2109, 12, 0x8000B000004600006700004800004800004800006800012700004900004900004C00006C⟩,
   ⟨0x2115, 3, 0x4E80004E00006F⟩,
   ⟨0x2119, 5, 0x50000051000052000052000052⟩,
   ⟨0x2120, 7, 0x80005300004D80005480004500004C80005400004D⟩,
   ⟨0x2124, 1, 0x5A⟩,
   ⟨0x2126, 1, 0x3A9⟩,
   ⟨0x2128, 1, 0x5A⟩,
   ⟨0x212A, 5, 0x4B80004100030A000042000043⟩,
   ⟨0x212F, 3, 0x65000045000046⟩,
   ⟨0x2133, 2, 0x4D00006F⟩,
   ⟨0x2139, 1, 0x69⟩,
   ⟨0x213D, 4, 0x3B30003930003A0002211⟩,
   ⟨0x2145, 5, 0x4400006400006500006900006A⟩,
   ⟨0x2153, 12, 0x800031802044000033800032802044000033800031802044000035800032802044000035⟩,
   ⟨0x2157, 12, 0x800033802044000035800034802044000035800031802044000036800035802044000036⟩,
   ⟨0x215B, 12, 0x800031802044000038800033802044000038800035802044000038800037802044000038⟩,
   ⟨0x215F, 11, 0x800031002044000049800049000049800049800049000049800049000056000056⟩,
   ⟨0x2165, 12, 0x800056000049800056800049000049800056800049800049000049800049000058000058⟩,
   ⟨0x216A, 12, 0x80005800004980005880004900004900004C00004300004400004D000069800069000069⟩,
   ⟨0x2172, 11, 0x800069800069000069800069000076000076800076000069800076800069000069⟩,
   ⟨0x2177, 12, 0x800076800069800069000069800069000078000078800078000069800078800069000069⟩,
   ⟨0x217C, 4, 0x6C00006300006400006D⟩,
   ⟨0x219A, 4, 0x802190000338802192000338⟩,
   ⟨0x21AE, 2, 0x802194000338⟩,
   ⟨0x21CD, 6, 0x8021D00003388021D40003388021D2000338⟩,
   ⟨0x2204, 2, 0x802203000338⟩,
   ⟨0x2209, 2, 0x802208000338⟩,
   ⟨0x220C, 2, 0x80220B000338⟩,
   ⟨0x2224, 2, 0x802223000338⟩,
   ⟨0x2226, 2, 0x802225000338⟩,
   ⟨0x222C, 5, 0x80222B00222B80222B80222B00222B⟩,
   ⟨0x222F, 5, 0x80222E00222E80222E80222E00222E⟩,
   ⟨0x2241, 2, 0x80223C000338⟩,
   ⟨0x2244, 2, 0x802243000338⟩,
   ⟨0x2247, 2, 0x802245000338⟩,
   ⟨0x2249, 2, 0x802248000338⟩,
   ⟨0x2260, 2, 0x80003D000338⟩,
   ⟨0x2262, 2, 0x802261000338⟩,
   ⟨0x226D, 10, 0x80224D00033880003C00033880003E000338802264000338802265000338⟩,
   ⟨0x2274, 4, 0x802272000338802273000338⟩,
   ⟨0x2278, 4, 0x802276000338802277000338⟩,
   ⟨0x2280, 4, 0x80227A00033880227B000338⟩,
   ⟨0x2284, 4, 0x802282000338802283000338⟩,
   ⟨0x2288, 4, 0x802286000338802287000338⟩,
   ⟨0x22AC, 8, 0x8022A20003388022A80003388022A90003388022AB000338⟩,
   ⟨0x22E0, 8, 0x80227C00033880227D000338802291000338802292000338⟩,
   ⟨0x22EA, 8, 0x8022B20003388022B30003388022B40003388022B5000338⟩,
   ⟨0x2329, 2, 0x3008003009⟩,
   ⟨0x2469, 12, 0x800031000030800031000031800031000032800031000033800031000034800031000035⟩,
   ⟨0x246F, 10, 0x800031000036800031000037800031000038800031000039800032000030⟩,
   ⟨0x2474, 12, 0x800028800031000029800028800032000029800028800033000029800028800034000029⟩,
   ⟨0x2478, 12, 0x800028800035000029800028800036000029800028800037000029800028800038000029⟩,
   ⟨0x247C, 11, 0x800028800039000029800028800031800030000029800028800031800031000029⟩,
   ⟨0x247F, 12, 0x800028800031800032000029800028800031800033000029800028800031800034000029⟩,
   ⟨0x2482, 12, 0x800028800031800035000029800028800031800036000029800028800031800037000029⟩,
   ⟨0x2485, 12, 0x800028800031800038000029800028800031800039000029800028800032800030000029⟩,
   ⟨0x2488, 12, 0x80003100002E80003200002E80003300002E80003400002E80003500002E80003600002E⟩,
   ⟨0x248E, 12, 0x80003700002E80003800002E80003900002E80003180003000002E80003180003100002E⟩,
   ⟨0x2493, 12, 0x80003180003200002E80003180003300002E80003180003400002E80003180003500002E⟩,
   ⟨0x2497, 12, 0x80003180003600002E80003180003700002E80003180003800002E80003180003900002E⟩,
   ⟨0x249B, 12, 0x80003280003000002E800028800061000029800028800062000029800028800063000029⟩,
   ⟨0x249F, 12, 0x800028800064000029800028800065000029800028800066000029800028800067000029⟩,
   ⟨0x24A3, 12, 0x80002880006800002980002880006900002980002880006A00002980002880006B000029⟩,
   ⟨0x24A7, 12, 0x80002880006C00002980002880006D00002980002880006E00002980002880006F000029⟩,
   ⟨0x24AB, 12, 0x800028800070000029800028800071000029800028800072000029800028800073000029⟩,
   ⟨0x24AF, 12, 0x800028800074000029800028800075000029800028800076000029800028800077000029⟩,
   ⟨0x24B3, 9, 0x80002880007800002980002880007900002980002880007A000029⟩,
   ⟨0x24EA, 1, 0x30⟩,
   ⟨0x2A0C, 4, 0x80222B80222B80222B00222B⟩,
   ⟨0x2A74, 8, 0x80003A80003A00003D80003D00003D80003D80003D00003D⟩,
   ⟨0x2ADC, 2, 0x802ADD000338⟩,
   ⟨0x2E9F, 1, 0x6BCD⟩,
   ⟨0x2EF3, 1, 0x9F9F⟩,
   ⟨0x2F00, 12, 0x4E00004E28004E36004E3F004E59004E85004E8C004EA0004EBA00513F00516500516B⟩,
   ⟨0x2F0C, 12, 0x51820051960051AB0051E00051F500520000529B0052F900531500531A005338005341⟩,
   ⟨0x2F18, 12, 0x535C0053690053820053B60053C80053E30056D700571F0058EB00590200590A005915⟩]

/-- Spelled-out decompositions from U+2F24 on. -/
def decompositionRows4 : List ImageRow :=
  [⟨0x2F24, 12, 0x5927005973005B50005B80005BF8005C0F005C22005C38005C6E005C71005DDB005DE5⟩,
   ⟨0x2F30, 12, 0x5DF1005DFE005E72005E7A005E7F005EF4005EFE005F0B005F13005F50005F61005F73⟩,
   ⟨0x2F3C, 12, 0x5FC300620800623600624B00652F0065340065870065970065A40065B90065E00065E5⟩,
   ⟨0x2F48, 12, 0x66F0006708006728006B20006B62006B79006BB3006BCB006BD4006BDB006C0F006C14⟩,
   ⟨0x2F54, 12, 0x6C3400706B00722A00723600723B00723F00724700725900725B0072AC007384007389⟩,
   ⟨0x2F60, 12, 0x74DC0074E600751800751F00752800753000758B00759200767600767D0076AE0076BF⟩,
   ⟨0x2F6C, 12, 0x76EE0077DB0077E20077F300793A0079B80079BE007A74007ACB007AF9007C73007CF8⟩,
   ⟨0x2F78, 12, 0x7F36007F51007F8A007FBD00800100800C00801200803300807F0080890081E30081EA⟩,
   ⟨0x2F84, 12, 0x81F30081FC00820C00821B00821F00826E00827200827800864D00866B00884000884C⟩,
   ⟨0x2F90, 12, 0x886300897E00898B0089D2008A00008C37008C46008C55008C78008C9D008D64008D70⟩,
   ⟨0x2F9C, 12, 0x8DB3008EAB008ECA008F9B008FB0008FB50090910091490091C60091CC0091D1009577⟩,
   ⟨0x2FA8, 12, 0x958000961C0096B60096B90096E800975100975E0097620097690097CB0097ED0097F3⟩,
   ⟨0x2FB4, 12, 0x98010098A80098DB0098DF0099960099990099AC009AA8009AD8009ADF009B25009B2F⟩,
   ⟨0x2FC0, 12, 0x9B32009B3C009B5A009CE5009E75009E7F009EA5009EBB009EC3009ECD009ED1009EF9⟩,
   ⟨0x2FCC, 10, 0x9EFD009F0E009F13009F20009F3B009F4A009F52009F8D009F9C009FA0⟩,
   ⟨0x3000, 1, 0x20⟩,
   ⟨0x3036, 1, 0x3012⟩,
   ⟨0x3038, 3, 0x5341005344005345⟩,
   ⟨0x304C, 2, 0x80304B003099⟩,
   ⟨0x304E, 2, 0x80304D003099⟩,
   ⟨0x3050, 2, 0x80304F003099⟩,
   ⟨0x3052, 2, 0x803051003099⟩,
   ⟨0x3054, 2, 0x803053003099⟩,
   ⟨0x3056, 2, 0x803055003099⟩,
   ⟨0x3058, 2, 0x803057003099⟩,
   ⟨0x305A, 2, 0x803059003099⟩,
   ⟨0x305C, 2, 0x80305B003099⟩,
   ⟨0x305E, 2, 0x80305D003099⟩,
   ⟨0x3060, 2, 0x80305F003099⟩,
   ⟨0x3062, 2, 0x803061003099⟩,
   ⟨0x3065, 2, 0x803064003099⟩,
   ⟨0x3067, 2, 0x803066003099⟩,
   ⟨0x3069, 2, 0x803068003099⟩,
   ⟨0x3070, 4, 0x80306F00309980306F00309A⟩,
   ⟨0x3073, 4, 0x80307200309980307200309A⟩,
   ⟨0x3076, 4, 0x80307500309980307500309A⟩,
   ⟨0x3079, 4, 0x80307800309980307800309A⟩,
   ⟨0x307C, 4, 0x80307B00309980307B00309A⟩,
   ⟨0x3094, 2, 0x803046003099⟩,
   ⟨0x309B, 4, 0x80002000309980002000309A⟩,
   ⟨0x309E, 4, 0x80309D00309980308800308A⟩,
   ⟨0x30AC, 2, 0x8030AB003099⟩,
   ⟨0x30AE, 2, 0x8030AD003099⟩,
   ⟨0x30B0, 2, 0x8030AF003099⟩,
   ⟨0x30B2, 2, 0x8030B1003099⟩,
   ⟨0x30B4, 2, 0x8030B3003099⟩,
   ⟨0x30B6, 2, 0x8030B5003099⟩,
   ⟨0x30B8, 2, 0x8030B7003099⟩,
   ⟨0x30BA, 2, 0x8030B9003099⟩,
   ⟨0x30BC, 2, 0x8030BB003099⟩,
   ⟨0x30BE, 2, 0x8030BD003099⟩,
   ⟨0x30C0, 2, 0x8030BF003099⟩,
   ⟨0x30C2, 2, 0x8030C1003099⟩,
   ⟨0x30C5, 2, 0x8030C4003099⟩,
   ⟨0x30C7, 2, 0x8030C6003099⟩,
   ⟨0x30C9, 2, 0x8030C8003099⟩,
   ⟨0x30D0, 4, 0x8030CF0030998030CF00309A⟩,
   ⟨0x30D3, 4, 0x8030D20030998030D200309A⟩,
   ⟨0x30D6, 4, 0x8030D50030998030D500309A⟩,
   ⟨0x30D9, 4, 0x8030D80030998030D800309A⟩,
   ⟨0x30DC, 4, 0x8030DB0030998030DB00309A⟩,
   ⟨0x30F4, 2, 0x8030A6003099⟩,
   ⟨0x30F7, 8, 0x8030EF0030998030F00030998030F10030998030F2003099⟩,
   ⟨0x30FE, 4, 0x8030FD0030998030B30030C8⟩,
   ⟨0x3131, 9, 0x11000011010011AA0011020011AC0011AD001103001104001105⟩,
   ⟨0x3140, 5, 0x111A001106001107001108001121⟩,
   ⟨0x3164, 12, 0x11600011140011150011C70011C80011CC0011CE0011D30011D70011D900111C0011DD⟩,
   ⟨0x3170, 8, 0x11DF00111D00111E001120001122001123001127001129⟩,
   ⟨0x317D, 12, 0x113200113600114000114700114C0011F10011F2001157001158001159001184001185⟩,
   ⟨0x3189, 6, 0x118800119100119200119400119E0011A1⟩,
   ⟨0x3192, 12, 0x4E00004E8C004E090056DB004E0A004E2D004E0B007532004E59004E19004E01005929⟩,
   ⟨0x319E, 2, 0x5730004EBA⟩,
   ⟨0x3200, 12, 0x800028801100000029800028801102000029800028801103000029800028801105000029⟩,
   ⟨0x3204, 12, 0x80002880110600002980002880110700002980002880110900002980002880110B000029⟩,
   ⟨0x3208, 12, 0x80002880110C00002980002880110E00002980002880110F000029800028801110000029⟩,
   ⟨0x320C, 10, 0x800028801111000029800028801112000029800028801100801161000029⟩,
   ⟨0x320F, 12, 0x800028801102801161000029800028801103801161000029800028801105801161000029⟩,
   ⟨0x3212, 12, 0x800028801106801161000029800028801107801161000029800028801109801161000029⟩,
   ⟨0x3215, 12, 0x80002880110B80116100002980002880110C80116100002980002880110E801161000029⟩,
   ⟨0x3218, 12, 0x80002880110F801161000029800028801110801161000029800028801111801161000029⟩,
   ⟨0x321B, 8, 0x80002880111280116100002980002880110C80116E000029⟩,
   ⟨0x3220, 12, 0x800028804E00000029800028804E8C000029800028804E090000298000288056DB000029⟩,
   ⟨0x3224, 12, 0x800028804E9400002980002880516D000029800028804E0300002980002880516B000029⟩,
   ⟨0x3228, 12, 0x800028804E5D00002980002880534100002980002880670800002980002880706B000029⟩,
   ⟨0x322C, 12, 0x800028806C340000298000288067280000298000288091D100002980002880571F000029⟩,
   ⟨0x3230, 12, 0x8000288065E500002980002880682A00002980002880670900002980002880793E000029⟩,
   ⟨0x3234, 12, 0x80002880540D000029800028807279000029800028808CA100002980002880795D000029⟩,
   ⟨0x3238, 12, 0x8000288052B4000029800028804EE300002980002880547C000029800028805B66000029⟩,
   ⟨0x323C, 12, 0x8000288076E3000029800028804F01000029800028808CC7000029800028805354000029⟩,
   ⟨0x3240, 12, 0x80002880796D000029800028804F110000298000288081EA0000298000288081F3000029⟩,
   ⟨0x3251, 12, 0x800032000031800032000032800032000033800032000034800032000035800032000036⟩,
   ⟨0x3257, 12, 0x800032000037800032000038800032000039800033000030800033000031800033000032⟩,
   ⟨0x325D, 12, 0x800033000033800033000034800033000035001100001102001103001105001106001107⟩,
   ⟨0x3266, 3, 0x110900110B00110C⟩,
   ⟨0x326E, 12, 0x801100001161801102001161801103001161801105001161801106001161801107001161⟩,
   ⟨0x3274, 12, 0x80110900116180110B00116180110C00116180110E00116180110F001161801110001161⟩,
   ⟨0x327A, 4, 0x801111001161801112001161⟩,
   ⟨0x3280, 12, 0x4E00004E8C004E090056DB004E9400516D004E0300516B004E5D00534100670800706B⟩,
   ⟨0x328C, 12, 0x6C340067280091D100571F0065E500682A00670900793E00540D007279008CA100795D⟩,
   ⟨0x3298, 12, 0x52B40079D800753700597300906900512A005370006CE8009805004F11005199006B63⟩,
   ⟨0x32A4, 12, 0x4E0A004E2D004E0B005DE60053F300533B005B97005B660076E3004F01008CC7005354⟩,
   ⟨0x32B0, 11, 0x591C800033000036800033000037800033000038800033000039800034000030⟩,
   ⟨0x32B6, 12, 0x800034000031800034000032800034000033800034000034800034000035800034000036⟩,
   ⟨0x32BC, 12, 0x800034000037800034000038800034000039800035000030800031006708800032006708⟩,
   ⟨0x32C2, 12, 0x800033006708800034006708800035006708800036006708800037006708800038006708⟩,
   ⟨0x32C8, 11, 0x800039006708800031800030006708800031800031006708800031800032006708⟩,
   ⟨0x32D0, 12, 0x30A20030A40030A60030A80030AA0030AB0030AD0030AF0030B10030B30030B50030B7⟩,
   ⟨0x32DC, 8, 0x30B90030BB0030BD0030BF0030C10030C40030C60030C8⟩,
   ⟨0x32EA, 4, 0x30D20030D50030D80030DB⟩,
   ⟨0x32F3, 2, 0x30E40030E6⟩,
   ⟨0x3300, 9, 0x8030A28030CF80309A8030FC0030C88030A28030EB8030D50030A1⟩,
   ⟨0x3302, 8, 0x8030A28030F38030D880309A0030A28030A28030FC0030EB⟩,
   ⟨0x3304, 11, 0x8030A48030CB8030F38030AF0030998030A48030F30030C18030A68030A90030F3⟩,
   ⟨0x3307, 10, 0x8030A88030B98030AF8030FC8030C80030998030A88030FC8030AB0030FC⟩,
   ⟨0x3309, 9, 0x8030AA8030F30030B98030AA8030FC0030E08030AB8030A40030EA⟩,
   ⟨0x330C, 12, 0x8030AB8030E98030C30030C88030AB8030ED8030EA0030FC8030AB8030998030ED0030F3⟩,
   ⟨0x330F, 12, 0x8030AB8030998030F30030DE8030AD8030998030AB0030998030AD8030998030CB0030FC⟩,
   ⟨0x3312, 12, 0x8030AD8030E58030EA0030FC8030AD8030998030EB8030BF8030990030FC8030AD0030ED⟩,
   ⟨0x3315, 12, 0x8030AD8030ED8030AF8030998030E90030E08030AD8030ED8030E18030FC8030C80030EB⟩,
   ⟨0x3317, 9, 0x8030AD8030ED8030EF8030C30030C88030AF8030998030E90030E0⟩]

/-- Spelled-out decompositions from U+3319 on. -/
def decompositionRows5 : List ImageRow :=
  [⟨0x3319, 12, 0x8030AF8030998030E98030E08030C80030F38030AF8030EB8030BB8030998030A40030ED⟩,
   ⟨0x331B, 10, 0x8030AF8030ED8030FC0030CD8030B18030FC0030B98030B38030EB0030CA⟩,
   ⟨0x331E, 8, 0x8030B38030FC8030DB00309A8030B58030A48030AF0030EB⟩,
   ⟨0x3320, 10, 0x8030B58030F38030C18030FC0030E08030B78030EA8030F38030AF003099⟩,
   ⟨0x3322, 10, 0x8030BB8030F30030C18030BB8030F30030C88030BF8030998030FC0030B9⟩,
   ⟨0x3325, 10, 0x8030C68030990030B78030C88030990030EB8030C80030F38030CA0030CE⟩,
   ⟨0x3329, 12, 0x8030CE8030C30030C88030CF8030A40030C48030CF80309A8030FC8030BB8030F30030C8⟩,
   ⟨0x332C, 9, 0x8030CF80309A8030FC0030C48030CF8030998030FC8030EC0030EB⟩,
   ⟨0x332E, 10, 0x8030D280309A8030A28030B98030C80030EB8030D280309A8030AF0030EB⟩,
   ⟨0x3330, 12, 0x8030D280309A0030B38030D28030990030EB8030D58030A18030E98030C38030C8003099⟩,
   ⟨0x3333, 10, 0x8030D58030A38030FC0030C88030D58030998030C38030B78030A70030EB⟩,
   ⟨0x3335, 11, 0x8030D58030E90030F38030D88030AF8030BF8030FC0030EB8030D880309A0030BD⟩,
   ⟨0x3338, 11, 0x8030D880309A8030CB0030D28030D88030EB0030C48030D880309A8030F30030B9⟩,
   ⟨0x333B, 9, 0x8030D880309A8030FC8030B70030998030D88030998030FC0030BF⟩,
   ⟨0x333D, 11, 0x8030DB80309A8030A48030F30030C88030DB8030998030EB0030C88030DB0030F3⟩,
   ⟨0x3340, 11, 0x8030DB80309A8030F38030C80030998030DB8030FC0030EB8030DB8030FC0030F3⟩,
   ⟨0x3343, 10, 0x8030DE8030A48030AF0030ED8030DE8030A40030EB8030DE8030C30030CF⟩,
   ⟨0x3346, 12, 0x8030DE8030EB0030AF8030DE8030F38030B78030E70030F38030DF8030AF8030ED0030F3⟩,
   ⟨0x3349, 11, 0x8030DF0030EA8030DF8030EA8030CF8030998030FC0030EB8030E18030AB003099⟩,
   ⟨0x334C, 9, 0x8030E18030AB8030998030C80030F38030E18030FC8030C80030EB⟩,
   ⟨0x334E, 10, 0x8030E48030FC8030C80030998030E48030FC0030EB8030E68030A20030F3⟩,
   ⟨0x3351, 10, 0x8030EA8030C38030C80030EB8030EA0030E98030EB8030D280309A0030FC⟩,
   ⟨0x3354, 7, 0x8030EB8030FC8030D58030990030EB8030EC0030E0⟩,
   ⟨0x3356, 11, 0x8030EC8030F38030C88030B18030990030F38030EF8030C30030C88000300070B9⟩,
   ⟨0x3359, 12, 0x8000310070B98000320070B98000330070B98000340070B98000350070B98000360070B9⟩,
   ⟨0x335F, 12, 0x8000370070B98000380070B98000390070B98000318000300070B98000318000310070B9⟩,
   ⟨0x3364, 12, 0x8000318000320070B98000318000330070B98000318000340070B98000318000350070B9⟩,
   ⟨0x3368, 12, 0x8000318000360070B98000318000370070B98000318000380070B98000318000390070B9⟩,
   ⟨0x336C, 12, 0x8000328000300070B98000328000310070B98000328000320070B98000328000330070B9⟩,
   ⟨0x3370, 10, 0x8000328000340070B9800068800050000061800064000061800041000055⟩,
   ⟨0x3374, 7, 0x80006280006100007280006F000056800070000063⟩,
   ⟨0x337B, 12, 0x805E7300621080662D00548C805927006B6380660E006CBB80682A805F0F804F1A00793E⟩,
   ⟨0x3380, 12, 0x80007000004180006E0000418003BC00004180006D00004180006B00004180004B000042⟩,
   ⟨0x3386, 11, 0x80004D00004280004700004280006380006100006C80006B80006380006100006C⟩,
   ⟨0x338A, 12, 0x80007000004680006E0000468003BC0000468003BC00006780006D00006780006B000067⟩,
   ⟨0x3390, 11, 0x80004800007A80006B80004800007A80004D80004800007A80004780004800007A⟩,
   ⟨0x3394, 11, 0x80005480004800007A8003BC00006C80006D00006C80006400006C80006B00006C⟩,
   ⟨0x3399, 12, 0x80006600006D80006E00006D8003BC00006D80006D00006D80006300006D80006B00006D⟩,
   ⟨0x339F, 11, 0x80006D80006D00003280006380006D00003280006D00003280006B80006D000032⟩,
   ⟨0x33A3, 11, 0x80006D80006D00003380006380006D00003380006D00003380006B80006D000033⟩,
   ⟨0x33A7, 12, 0x80006D80221500007380006D80221580007300003280005000006180006B800050000061⟩,
   ⟨0x33AB, 9, 0x80004D800050000061800047800050000061800072800061000064⟩,
   ⟨0x33AE, 11, 0x800072800061800064802215000073800072800061800064802215800073000032⟩,
   ⟨0x33B0, 12, 0x80007000007380006E0000738003BC00007380006D00007380007000005680006E000056⟩,
   ⟨0x33B6, 12, 0x8003BC00005680006D00005680006B00005680004D00005680007000005780006E000057⟩,
   ⟨0x33BC, 12, 0x8003BC00005780006D00005780006B00005780004D00005780006B0003A980004D0003A9⟩,
   ⟨0x33C2, 10, 0x80006180002E80006D00002E800042000071800063000063800063000064⟩,
   ⟨0x33C6, 11, 0x80004380221580006B00006780004380006F00002E800064000042800047000079⟩,
   ⟨0x33CA, 12, 0x80006800006180004800005080006900006E80004B00004B80004B00004D80006B000074⟩,
   ⟨0x33D0, 11, 0x80006C00006D80006C00006E80006C80006F00006780006C00007880006D000062⟩,
   ⟨0x33D5, 12, 0x80006D80006900006C80006D80006F00006C80005000004880007080002E80006D00002E⟩,
   ⟨0x33D9, 11, 0x80005080005000004D800050000052800073000072800053000076800057000062⟩,
   ⟨0x33E0, 12, 0x8000310065E58000320065E58000330065E58000340065E58000350065E58000360065E5⟩,
   ⟨0x33E6, 12, 0x8000370065E58000380065E58000390065E58000318000300065E58000318000310065E5⟩,
   ⟨0x33EB, 12, 0x8000318000320065E58000318000330065E58000318000340065E58000318000350065E5⟩,
   ⟨0x33EF, 12, 0x8000318000360065E58000318000370065E58000318000380065E58000318000390065E5⟩,
   ⟨0x33F3, 12, 0x8000328000300065E58000328000310065E58000328000320065E58000328000330065E5⟩,
   ⟨0x33F7, 12, 0x8000328000340065E58000328000350065E58000328000360065E58000328000370065E5⟩,
   ⟨0x33FB, 12, 0x8000328000380065E58000328000390065E58000338000300065E58000338000310065E5⟩,
   ⟨0xF900, 12, 0x8C480066F4008ECA008CC8006ED1004E320053E5009F9C009F9C0059510091D1005587⟩,
   ⟨0xF90C, 12, 0x59480061F6007669007F8500863F0087BA0088F800908F006A02006D1B0070D90073DE⟩,
   ⟨0xF918, 12, 0x843D00916A0099F1004E82005375006B0400721B00862D009E1E005D50006FEB0085CD⟩,
   ⟨0xF924, 12, 0x89640062C90081D800881F005ECA006717006D6A0072FC0090CE004F860051B70052DE⟩,
   ⟨0xF930, 12, 0x64C4006AD30072100076E700800100860600865C008DEF009732009B6F009DFA00788C⟩,
   ⟨0xF93C, 12, 0x797F007DA00083C9009304009E7F008AD60058DF005F04007C6000807E0072620078CA⟩,
   ⟨0xF948, 12, 0x8CC20096F70058D8005C62006A13006DDA006F0F007D2F007E3700964B0052D200808B⟩,
   ⟨0xF954, 12, 0x51DC0051CC007A1C007DBE0083F1009675008B800062CF006A02008AFE004E39005BE7⟩,
   ⟨0xF960, 12, 0x60120073870075700053170078FB004FBF005FA9004E0D006CCC006578007D220053C3⟩,
   ⟨0xF96C, 12, 0x585E007701008449008AAA006BBA008FB0006C880062FE0082E50063A0007565004EAE⟩,
   ⟨0xF978, 12, 0x51690051C9006881007CE700826F008AD20091CF0052F5005442005973005EEC0065C5⟩,
   ⟨0xF984, 12, 0x6FFE00792A0095AD009A6A009E97009ECE00529B0066C6006B77008F62005E74006190⟩,
   ⟨0xF990, 12, 0x620000649A006F230071490074890079CA007DF400806F008F260084EE00902300934A⟩,
   ⟨0xF99C, 12, 0x52170052A30054BD0070C80088C2008AAA005EC9005FF500637B006BAE007C3E007375⟩,
   ⟨0xF9A8, 12, 0x4EE40056F9005BE7005DBA00601C0073B2007469007F9A0080460092340096F6009748⟩,
   ⟨0xF9B4, 12, 0x9818004F8B0079AE0091B40096B80060E1004E860050DA005BEE005C3F006599006A02⟩,
   ⟨0xF9C0, 12, 0x71CE0076420084FC00907C009F8D00668800962E00528900677B0067F3006D41006E9C⟩,
   ⟨0xF9CC, 12, 0x740900755900786B007D1000985E00516D00622E00967800502B005D19006DEA008F2A⟩,
   ⟨0xF9D8, 12, 0x5F8B00614400681700738700968600522900540F005C6500661300674E0068A8006CE5⟩,
   ⟨0xF9E4, 12, 0x74060075E2007F790088CF0088E10091CC0096E200533F006EBA00541D0071D0007498⟩,
   ⟨0xF9F0, 12, 0x85FA0096A3009C57009E9F006797006DCB0081E8007ACB007B20007C920072C0007099⟩,
   ⟨0xF9FC, 12, 0x8B58004EC000833600523A005207005EA60062D3007CD6005B85006D1E0066B4008F3B⟩,
   ⟨0xFA08, 6, 0x884C00964D00898B005ED30051400055C0⟩,
   ⟨0xFA10, 1, 0x585A⟩,
   ⟨0xFA12, 1, 0x6674⟩,
   ⟨0xFA15, 10, 0x51DE00732A0076CA00793C00795E00796500798F009756007CBE007FBD⟩,
   ⟨0xFA20, 1, 0x8612⟩,
   ⟨0xFA22, 1, 0x8AF8⟩,
   ⟨0xFA25, 2, 0x90380090FD⟩,
   ⟨0xFA2A, 4, 0x98EF0098FC009928009DB4⟩,
   ⟨0xFA30, 12, 0x4FAE0050E700514D0052C90052E400535100559D0056060056680058400058A8005C64⟩,
   ⟨0xFA3C, 12, 0x5C6E00609400616800618E0061F200654F0065E2006691006885006D77006E1A006F22⟩,
   ⟨0xFA48, 12, 0x716E00722B00742200789100793E00794900794800795000795600795D00798D00798E⟩,
   ⟨0xFA54, 12, 0x7A40007A81007BC0007DF4007E09007E41007F720080050081ED008279008279008457⟩,
   ⟨0xFA60, 11, 0x8910008996008B01008B39008CD3008D08008FB60090380096E30097FF00983B⟩,
   ⟨0xFB00, 12, 0x80006600006680006600006980006600006C80006680006600006980006680006600006C⟩,
   ⟨0xFB05, 4, 0x800073000074800073000074⟩,
   ⟨0xFB13, 10, 0x80057400057680057400056580057400056B80057E00057680057400056D⟩,
   ⟨0xFB1D, 2, 0x8005D90005B4⟩,
   ⟨0xFB1F, 12, 0x8005F20005B70005E20005D00005D30005D40005DB0005DC0005DD0005E80005EA00002B⟩,
   ⟨0xFB2A, 12, 0x8005E90005C18005E90005C28005E98005BC0005C18005E98005BC0005C28005D00005B7⟩,
   ⟨0xFB2F, 12, 0x8005D00005B88005D00005BC8005D10005BC8005D20005BC8005D30005BC8005D40005BC⟩,
   ⟨0xFB35, 4, 0x8005D50005BC8005D60005BC⟩,
   ⟨0xFB38, 10, 0x8005D80005BC8005D90005BC8005DA0005BC8005DB0005BC8005DC0005BC⟩,
   ⟨0xFB3E, 2, 0x8005DE0005BC⟩,
   ⟨0xFB40, 4, 0x8005E00005BC8005E10005BC⟩,
   ⟨0xFB43, 4, 0x8005E30005BC8005E40005BC⟩,
   ⟨0xFB46, 12, 0x8005E60005BC8005E70005BC8005E80005BC8005E90005BC8005EA0005BC8005D50005B9⟩,
   ⟨0xFB4C, 12, 0x8005D10005BF8005DB0005BF8005E40005BF8005D00005DC00067100067100067B00067B⟩,
   ⟨0xFB54, 12, 0x67B00067B00067E00067E00067E00067E00068000068000068000068000067A00067A⟩,
   ⟨0xFB60, 12, 0x67A00067A00067F00067F00067F00067F0006790006790006790006790006A40006A4⟩,
   ⟨0xFB6C, 12, 0x6A40006A40006A60006A60006A60006A6000684000684000684000684000683000683⟩,
   ⟨0xFB78, 12, 0x68300068300068600068600068600068600068700068700068700068700068D00068D⟩,
   ⟨0xFB84, 12, 0x68C00068C00068E00068E0006880006880006980006980006910006910006A90006A9⟩,
   ⟨0xFB90, 12, 0x6A90006A90006AF0006AF0006AF0006AF0006B30006B30006B30006B30006B10006B1⟩,
   ⟨0xFB9C, 12, 0x6B10006B10006BA0006BA0006BB0006BB0006BB0006BB8006D50006548006D5000654⟩,
   ⟨0xFBA6, 12, 0x6C10006C10006C10006C10006BE0006BE0006BE0006BE0006D20006D28006D2000654⟩,
   ⟨0xFBB1, 2, 0x8006D2000654⟩,
   ⟨0xFBD3, 12, 0x6AD0006AD0006AD0006AD0006C70006C70006C60006C60006C80006C88006C7000674⟩,
   ⟨0xFBDE, 12, 0x6CB0006CB0006C50006C50006C90006C90006D00006D00006D00006D0000649000649⟩,
   ⟨0xFBEA, 12, 0x80064A80065400062780064A80065400062780064A8006540006D580064A8006540006D5⟩]

/-- Spelled-out decompositions from U+FBEE on. -/
def decompositionRows6 : List ImageRow :=
  [⟨0xFBEE, 12, 0x80064A80065400064880064A80065400064880064A8006540006C780064A8006540006C7⟩,
   ⟨0xFBF2, 12, 0x80064A8006540006C680064A8006540006C680064A8006540006C880064A8006540006C8⟩,
   ⟨0xFBF6, 12, 0x80064A8006540006D080064A8006540006D080064A8006540006D080064A800654000649⟩,
   ⟨0xFBFA, 10, 0x80064A80065400064980064A8006540006490006CC0006CC0006CC0006CC⟩,
   ⟨0xFC00, 12, 0x80064A80065400062C80064A80065400062D80064A80065400064580064A800654000649⟩,
   ⟨0xFC04, 11, 0x80064A80065400064A80062800062C80062800062D80062800062E800628000645⟩,
   ⟨0xFC09, 12, 0x80062800064980062800064A80062A00062C80062A00062D80062A00062E80062A000645⟩,
   ⟨0xFC0F, 12, 0x80062A00064980062A00064A80062B00062C80062B00064580062B00064980062B00064A⟩,
   ⟨0xFC15, 12, 0x80062C00062D80062C00064580062D00062C80062D00064580062E00062C80062E00062D⟩,
   ⟨0xFC1B, 12, 0x80062E00064580063300062C80063300062D80063300062E80063300064580063500062D⟩,
   ⟨0xFC21, 12, 0x80063500064580063600062C80063600062D80063600062E80063600064580063700062D⟩,
   ⟨0xFC27, 12, 0x80063700064580063800064580063900062C80063900064580063A00062C80063A000645⟩,
   ⟨0xFC2D, 12, 0x80064100062C80064100062D80064100062E80064100064580064100064980064100064A⟩,
   ⟨0xFC33, 12, 0x80064200062D80064200064580064200064980064200064A80064300062780064300062C⟩,
   ⟨0xFC39, 12, 0x80064300062D80064300062E80064300064480064300064580064300064980064300064A⟩,
   ⟨0xFC3F, 12, 0x80064400062C80064400062D80064400062E80064400064580064400064980064400064A⟩,
   ⟨0xFC45, 12, 0x80064500062C80064500062D80064500062E80064500064580064500064980064500064A⟩,
   ⟨0xFC4B, 12, 0x80064600062C80064600062D80064600062E80064600064580064600064980064600064A⟩,
   ⟨0xFC51, 12, 0x80064700062C80064700064580064700064980064700064A80064A00062C80064A00062D⟩,
   ⟨0xFC57, 12, 0x80064A00062E80064A00064580064A00064980064A00064A800630000670800631000670⟩,
   ⟨0xFC5D, 11, 0x80064900067080002080064C00065180002080064D00065180002080064E000651⟩,
   ⟨0xFC61, 12, 0x80002080064F00065180002080065000065180002080065100067080064A800654000631⟩,
   ⟨0xFC65, 12, 0x80064A80065400063280064A80065400064580064A80065400064680064A800654000649⟩,
   ⟨0xFC69, 11, 0x80064A80065400064A800628000631800628000632800628000645800628000646⟩,
   ⟨0xFC6E, 12, 0x80062800064980062800064A80062A00063180062A00063280062A00064580062A000646⟩,
   ⟨0xFC74, 12, 0x80062A00064980062A00064A80062B00063180062B00063280062B00064580062B000646⟩,
   ⟨0xFC7A, 12, 0x80062B00064980062B00064A80064100064980064100064A80064200064980064200064A⟩,
   ⟨0xFC80, 12, 0x80064300062780064300064480064300064580064300064980064300064A800644000645⟩,
   ⟨0xFC86, 12, 0x80064400064980064400064A800645000627800645000645800646000631800646000632⟩,
   ⟨0xFC8C, 12, 0x80064600064580064600064680064600064980064600064A80064900067080064A000631⟩,
   ⟨0xFC92, 10, 0x80064A00063280064A00064580064A00064680064A00064980064A00064A⟩,
   ⟨0xFC97, 12, 0x80064A80065400062C80064A80065400062D80064A80065400062E80064A800654000645⟩,
   ⟨0xFC9B, 11, 0x80064A80065400064780062800062C80062800062D80062800062E800628000645⟩,
   ⟨0xFCA0, 12, 0x80062800064780062A00062C80062A00062D80062A00062E80062A00064580062A000647⟩,
   ⟨0xFCA6, 12, 0x80062B00064580062C00062D80062C00064580062D00062C80062D00064580062E00062C⟩,
   ⟨0xFCAC, 12, 0x80062E00064580063300062C80063300062D80063300062E80063300064580063500062D⟩,
   ⟨0xFCB2, 12, 0x80063500062E80063500064580063600062C80063600062D80063600062E800636000645⟩,
   ⟨0xFCB8, 12, 0x80063700062D80063800064580063900062C80063900064580063A00062C80063A000645⟩,
   ⟨0xFCBE, 12, 0x80064100062C80064100062D80064100062E80064100064580064200062D800642000645⟩,
   ⟨0xFCC4, 12, 0x80064300062C80064300062D80064300062E80064300064480064300064580064400062C⟩,
   ⟨0xFCCA, 12, 0x80064400062D80064400062E80064400064580064400064780064500062C80064500062D⟩,
   ⟨0xFCD0, 12, 0x80064500062E80064500064580064600062C80064600062D80064600062E800646000645⟩,
   ⟨0xFCD6, 12, 0x80064600064780064700062C80064700064580064700067080064A00062C80064A00062D⟩,
   ⟨0xFCDC, 12, 0x80064A00062E80064A00064580064A00064780064A80065400064580064A800654000647⟩,
   ⟨0xFCE1, 12, 0x80062800064580062800064780062A00064580062A00064780062B00064580062B000647⟩,
   ⟨0xFCE7, 12, 0x800633000645800633000647800634000645800634000647800643000644800643000645⟩,
   ⟨0xFCED, 10, 0x80064400064580064600064580064600064780064A00064580064A000647⟩,
   ⟨0xFCF2, 11, 0x80064080064E00065180064080064F000651800640800650000651800637000649⟩,
   ⟨0xFCF6, 12, 0x80063700064A80063900064980063900064A80063A00064980063A00064A800633000649⟩,
   ⟨0xFCFC, 12, 0x80063300064A80063400064980063400064A80062D00064980062D00064A80062C000649⟩,
   ⟨0xFD02, 12, 0x80062C00064A80062E00064980062E00064A80063500064980063500064A800636000649⟩,
   ⟨0xFD08, 12, 0x80063600064A80063400062C80063400062D80063400062E800634000645800634000631⟩,
   ⟨0xFD0E, 12, 0x80063300063180063500063180063600063180063700064980063700064A800639000649⟩,
   ⟨0xFD14, 12, 0x80063900064A80063A00064980063A00064A80063300064980063300064A800634000649⟩,
   ⟨0xFD1A, 12, 0x80063400064A80062D00064980062D00064A80062C00064980062C00064A80062E000649⟩,
   ⟨0xFD20, 12, 0x80062E00064A80063500064980063500064A80063600064980063600064A80063400062C⟩,
   ⟨0xFD26, 12, 0x80063400062D80063400062E800634000645800634000631800633000631800635000631⟩,
   ⟨0xFD2C, 12, 0x80063600063180063400062C80063400062D80063400062E800634000645800633000647⟩,
   ⟨0xFD32, 12, 0x80063400064780063700064580063300062C80063300062D80063300062E80063400062C⟩,
   ⟨0xFD38, 12, 0x80063400062D80063400062E80063700064580063800064580062700064B80062700064B⟩,
   ⟨0xFD50, 12, 0x80062A80062C00064580062A80062D00062C80062A80062D00062C80062A80062D000645⟩,
   ⟨0xFD54, 12, 0x80062A80062E00064580062A80064500062C80062A80064500062D80062A80064500062E⟩,
   ⟨0xFD58, 12, 0x80062C80064500062D80062C80064500062D80062D80064500064A80062D800645000649⟩,
   ⟨0xFD5C, 12, 0x80063380062D00062C80063380062C00062D80063380062C00064980063380064500062D⟩,
   ⟨0xFD60, 12, 0x80063380064500062D80063380064500062C800633800645000645800633800645000645⟩,
   ⟨0xFD64, 12, 0x80063580062D00062D80063580062D00062D80063580064500064580063480062D000645⟩,
   ⟨0xFD68, 12, 0x80063480062D00064580063480062C00064A80063480064500062E80063480064500062E⟩,
   ⟨0xFD6C, 12, 0x80063480064500064580063480064500064580063680062D00064980063680062E000645⟩,
   ⟨0xFD70, 12, 0x80063680062E00064580063780064500062D80063780064500062D800637800645000645⟩,
   ⟨0xFD74, 12, 0x80063780064500064A80063980062C000645800639800645000645800639800645000645⟩,
   ⟨0xFD78, 12, 0x80063980064500064980063A80064500064580063A80064500064A80063A800645000649⟩,
   ⟨0xFD7C, 12, 0x80064180062E00064580064180062E00064580064280064500062D800642800645000645⟩,
   ⟨0xFD80, 12, 0x80064480062D00064580064480062D00064A80064480062D00064980064480062C00062C⟩,
   ⟨0xFD84, 12, 0x80064480062C00062C80064480062E00064580064480062E00064580064480064500062D⟩,
   ⟨0xFD88, 12, 0x80064480064500062D80064580062D00062C80064580062D00064580064580062D00064A⟩,
   ⟨0xFD8C, 12, 0x80064580062C00062D80064580062C00064580064580062E00062C80064580062E000645⟩,
   ⟨0xFD92, 12, 0x80064580062C00062E80064780064500062C80064780064500064580064680062D000645⟩,
   ⟨0xFD96, 12, 0x80064680062D00064980064680062C00064580064680062C00064580064680062C000649⟩,
   ⟨0xFD9A, 12, 0x80064680064500064A80064680064500064980064A80064500064580064A800645000645⟩,
   ⟨0xFD9E, 12, 0x80062880062E00064A80062A80062C00064A80062A80062C00064980062A80062E00064A⟩,
   ⟨0xFDA2, 12, 0x80062A80062E00064980062A80064500064A80062A80064500064980062C80064500064A⟩,
   ⟨0xFDA6, 12, 0x80062C80062D00064980062C80064500064980063380062E00064980063580062D00064A⟩,
   ⟨0xFDAA, 12, 0x80063480062D00064A80063680062D00064A80064480062C00064A80064480064500064A⟩,
   ⟨0xFDAE, 12, 0x80064A80062D00064A80064A80062C00064A80064A80064500064A80064580064500064A⟩,
   ⟨0xFDB2, 12, 0x80064280064500064A80064680062D00064A80064280064500062D80064480062D000645⟩,
   ⟨0xFDB6, 12, 0x80063980064500064A80064380064500064A80064680062C00062D80064580062E00064A⟩,
   ⟨0xFDBA, 12, 0x80064480062C00064580064380064500064580064480062C00064580064680062C00062D⟩,
   ⟨0xFDBE, 12, 0x80062C80062D00064A80062D80062C00064A80064580062C00064A80064180064500064A⟩,
   ⟨0xFDC2, 12, 0x80062880062D00064A80064380064500064580063980062C000645800635800645000645⟩,
   ⟨0xFDC6, 6, 0x80063380062E00064A80064680062C00064A⟩,
   ⟨0xFDF0, 10, 0x8006358006440006D28006428006440006D2800627800644800644000647⟩,
   ⟨0xFDF3, 12, 0x80062780064380062800063180064580062D80064500062F800635800644800639000645⟩,
   ⟨0xFDF6, 12, 0x80063180063380064800064480063980064480064A000647800648800633800644000645⟩,
   ⟨0xFDF9, 3, 0x800635800644000649⟩,
   ⟨0xFDFA, 18, 0x80063580064480064980002080062780064480064480064780002080063980064480064A800647800020800648800633800644000645⟩,
   ⟨0xFDFB, 12, 0x80062C80064480002080062C8006448006278006440006478006318006CC800627000644⟩,
   ⟨0xFE30, 12, 0x80002E00002E00201400201300005F00005F00002800002900007B00007D003014003015⟩,
   ⟨0xFE3B, 6, 0x301000301100300A00300B003008003009⟩,
   ⟨0xFE49, 12, 0x80002000030580002000030580002000030580002000030500005F00005F00005F00002C⟩,
   ⟨0xFE51, 2, 0x300100002E⟩,
   ⟨0xFE54, 12, 0x3B00003A00003F00002100201400002800002900007B00007D003014003015000023⟩,
   ⟨0xFE60, 7, 0x2600002A00002B00002D00003C00003E00003D⟩,
   ⟨0xFE68, 4, 0x5C000024000025000040⟩,
   ⟨0xFE70, 6, 0x80002000064B80064000064B80002000064C⟩,
   ⟨0xFE74, 2, 0x80002000064D⟩,
   ⟨0xFE76, 12, 0x80002000064E80064000064E80002000064F80064000064F800020000650800640000650⟩,
   ⟨0xFE7C, 11, 0x800020000651800640000651800020000652800640000652000621800627000653⟩,
   ⟨0xFE82, 12, 0x800627000653800627000654800627000654800648000654800648000654800627000655⟩,
   ⟨0xFE88, 12, 0x80062700065580064A00065480064A00065480064A00065480064A000654000627000627⟩,
   ⟨0xFE8F, 12, 0x62800062800062800062800062900062900062A00062A00062A00062A00062B00062B⟩,
   ⟨0xFE9B, 12, 0x62B00062B00062C00062C00062C00062C00062D00062D00062D00062D00062E00062E⟩,
   ⟨0xFEA7, 12, 0x62E00062E00062F00062F000630000630000631000631000632000632000633000633⟩,
   ⟨0xFEB3, 12, 0x633000633000634000634000634000634000635000635000635000635000636000636⟩,
   ⟨0xFEBF, 12, 0x636000636000637000637000637000637000638000638000638000638000639000639⟩,
   ⟨0xFECB, 12, 0x63900063900063A00063A00063A00063A000641000641000641000641000642000642⟩,
   ⟨0xFED7, 12, 0x642000642000643000643000643000643000644000644000644000644000645000645⟩,
   ⟨0xFEE3, 12, 0x645000645000646000646000646000646000647000647000647000647000648000648⟩,
   ⟨0xFEEF, 12, 0x64900064900064A00064A00064A00064A800644800627000653800644800627000653⟩,
   ⟨0xFEF7, 12, 0x800644800627000654800644800627000654800644800627000655800644800627000655⟩,
   ⟨0xFEFB, 4, 0x800644000627800644000627⟩]

/-- Spelled-out decompositions from U+FF5F on. -/
def decompositionRows7 : List ImageRow :=
  [⟨0xFF5F, 12, 0x298500298600300200300C00300D0030010030FB0030F20030A10030A30030A50030A7⟩,
   ⟨0xFF6B, 12, 0x30A90030E30030E50030E70030C30030FC0030A20030A40030A60030A80030AA0030AB⟩,
   ⟨0xFF77, 12, 0x30AD0030AF0030B10030B30030B50030B70030B90030BB0030BD0030BF0030C10030C4⟩,
   ⟨0xFF83, 2, 0x30C60030C8⟩,
   ⟨0xFF8B, 4, 0x30D20030D50030D80030DB⟩,
   ⟨0xFF94, 2, 0x30E40030E6⟩,
   ⟨0xFF9C, 12, 0x30EF0030F300309900309A0011600011000011010011AA0011020011AC0011AD001103⟩,
   ⟨0xFFA8, 2, 0x1104001105⟩,
   ⟨0xFFB0, 5, 0x111A001106001107001108001121⟩,
   ⟨0xFFDA, 3, 0x1173001174001175⟩,
   ⟨0xFFE0, 8, 0xA20000A30000AC8000200003040000A60000A50020A9⟩,
   ⟨0xFFE8, 1, 0x2502⟩,
   ⟨0xFFED, 2, 0x25A00025CB⟩,
   ⟨0x1D15E, 10, 0x81D15701D16581D15801D16581D15881D16501D16E81D15881D16501D16F⟩,
   ⟨0x1D162, 9, 0x81D15881D16501D17081D15881D16501D17181D15881D16501D172⟩,
   ⟨0x1D1BB, 10, 0x81D1B901D16581D1BA01D16581D1B981D16501D16E81D1BA81D16501D16E⟩,
   ⟨0x1D1BF, 6, 0x81D1B981D16501D16F81D1BA81D16501D16F⟩,
   ⟨0x1D49C, 1, 0x41⟩,
   ⟨0x1D49E, 2, 0x43000044⟩,
   ⟨0x1D4A2, 1, 0x47⟩,
   ⟨0x1D4A5, 2, 0x4A00004B⟩,
   ⟨0x1D4BB, 1, 0x66⟩,
   ⟨0x1D4C2, 2, 0x6D00006E⟩,
   ⟨0x1D504, 2, 0x41000042⟩,
   ⟨0x1D538, 2, 0x41000042⟩,
   ⟨0x1D546, 1, 0x4F⟩,
   ⟨0x1D6B9, 1, 0x398⟩,
   ⟨0x1D6C1, 1, 0x2207⟩,
   ⟨0x1D6DB, 7, 0x22020003B50003B80003BA0003C60003C10003C0⟩,
   ⟨0x1D6F3, 1, 0x398⟩,
   ⟨0x1D6FB, 1, 0x2207⟩,
   ⟨0x1D715, 7, 0x22020003B50003B80003BA0003C60003C10003C0⟩,
   ⟨0x1D72D, 1, 0x398⟩,
   ⟨0x1D735, 1, 0x2207⟩,
   ⟨0x1D74F, 7, 0x22020003B50003B80003BA0003C60003C10003C0⟩,
   ⟨0x1D767, 1, 0x398⟩,
   ⟨0x1D76F, 1, 0x2207⟩,
   ⟨0x1D789, 7, 0x22020003B50003B80003BA0003C60003C10003C0⟩,
   ⟨0x1D7A1, 1, 0x398⟩,
   ⟨0x1D7A9, 1, 0x2207⟩,
   ⟨0x1D7C3, 7, 0x22020003B50003B80003BA0003C60003C10003C0⟩,
   ⟨0x2F800, 12, 0x4E3D004E38004E41020122004F60004FAE004FBB00500200507A0050990050E70050CF⟩,
   ⟨0x2F80C, 12, 0x349E02063A00514D00515400516400517702051C0034B900516700518D02054B005197⟩,
   ⟨0x2F818, 12, 0x51A4004ECC0051AC0051B50291DF0051F50052030034DF00523B005246005272005277⟩,
   ⟨0x2F824, 12, 0x35150052C70052C90052E40052FA00530500530600531700534900535100535A005373⟩,
   ⟨0x2F830, 12, 0x537D00537F00537F00537F020A2C0070700053CA0053DF020B630053EB0053F1005406⟩,
   ⟨0x2F83C, 12, 0x549E0054380054480054680054A20054F6005510005553005563005584005584005599⟩,
   ⟨0x2F848, 12, 0x55AB0055B30055C20057160056060057170056510056740052070058EE0057CE0057F4⟩,
   ⟨0x2F854, 12, 0x580D00578B0058320058310058AC0214E40058F20058F700590600591A005922005962⟩,
   ⟨0x2F860, 12, 0x216A80216EA0059EC005A1B005A270059D8005A660036EE02136A005B08005B3E005B3E⟩,
   ⟨0x2F86C, 12, 0x219C8005BC3005BD8005BE7005BF3021B18005BFF005C06005F33005C22003781005C60⟩,
   ⟨0x2F878, 12, 0x5C6E005CC0005C8D021DE4005D43021DE6005D6E005D6B005D7C005DE1005DE200382F⟩,
   ⟨0x2F884, 12, 0x5DFD005E28005E3D005E6900386202218300387C005EB0005EB3005EB6005ECA02A392⟩,
   ⟨0x2F890, 12, 0x5EFE022331022331008201005F22005F220038C70232B80261DA005F62005F6B0038E3⟩,
   ⟨0x2F89C, 12, 0x5F9A005FCD005FD7005FF900608100393A00391C0060940226D40060C700614800614C⟩,
   ⟨0x2F8A8, 12, 0x614E00614C00617A00618E0061B20061A40061AF0061DE0061F20061F600621000621B⟩,
   ⟨0x2F8B4, 12, 0x625D0062B10062D4006350022B0C00633D0062FC0063680063830063E4022BF1006422⟩,
   ⟨0x2F8C0, 12, 0x63C50063A9003A2E00646900647E00649D006477003A6C00654F00656C02300A0065E3⟩,
   ⟨0x2F8CC, 12, 0x66F8006649003B19006691003B08003AE400519200519500670000669C0080AD0043D9⟩,
   ⟨0x2F8D8, 12, 0x671700671B00672100675E0067530233C3003B490067FA00678500685200688502346D⟩,
   ⟨0x2F8E4, 12, 0x688E00681F006914003B9D0069420069A30069EA006AA80236A3006ADB003C18006B21⟩,
   ⟨0x2F8F0, 12, 0x238A7006B54003C4E006B72006B9F006BBA006BBB023A8D021D0B023AFA006C4E023CBC⟩,
   ⟨0x2F8FC, 12, 0x6CBF006CCD006C67006D16006D3E006D77006D41006D69006D78006D85023D1E006D34⟩,
   ⟨0x2F908, 12, 0x6E2F006E6E003D33006ECB006EC7023ED1006DF9006F6E023F5E023F8E006FC6007039⟩,
   ⟨0x2F914, 12, 0x701E00701B003D9600704A00707D0070770070AD02052500714502426300719C0043AB⟩,
   ⟨0x2F920, 12, 0x722800723500725002460800728000729502473502481400737A00738B003EAC0073A5⟩,
   ⟨0x2F92C, 12, 0x3EB8003EB800744700745C0074710074850074CA003F1B007524024C3600753E024C92⟩,
   ⟨0x2F938, 12, 0x757002219F007610024FA1024FB8025044003FFC0040080076F40250F30250F2025119⟩,
   ⟨0x2F944, 12, 0x2513300771E00771F00771F00774A00403900778B00404600409602541D00784E00788C⟩,
   ⟨0x2F950, 12, 0x78CC0040E302562600795602569A0256C500798F0079EB00412F007A40007A4A007A4F⟩,
   ⟨0x2F95C, 12, 0x2597C025AA7025AA7007AAE004202025BAB007BC6007BC9004227025C80007CD20042A0⟩,
   ⟨0x2F968, 12, 0x7CE8007CE3007D00025F86007D63004301007DC7007E02007E45004334026228026247⟩,
   ⟨0x2F974, 12, 0x43590262D9007F7A02633E007F95007FFA0080050264DA0265230080600265A8008070⟩,
   ⟨0x2F980, 12, 0x2335F0043D50080B200810300440B00813E005AB50267A70267B502339302339C008201⟩,
   ⟨0x2F98C, 12, 0x8204008F9E00446B00829100828B00829D0052B30082B10082B30082BD0082E6026B3C⟩,
   ⟨0x2F998, 12, 0x82E500831D0083630083AD0083230083BD0083E70084570083530083CA0083CC0083DC⟩,
   ⟨0x2F9A4, 12, 0x26C36026D6B026CD500452B0084F10084F30085160273CA008564026F2C00455D004561⟩,
   ⟨0x2F9B0, 12, 0x26FB10270D200456B00865000865C0086670086690086A900868800870E0086E2008779⟩,
   ⟨0x2F9BC, 12, 0x872800876B008786004D570087E10088010045F90088600088630276670088D70088DE⟩,
   ⟨0x2F9C8, 12, 0x46350088FA0034BB0278AE0279660046BE0046C7008AA0008AED008B8A008C55027CA8⟩,
   ⟨0x2F9D4, 12, 0x8CAB008CC1008D1B008D77027F2F020804008DCB008DBC008DF00208DE008ED4008F38⟩,
   ⟨0x2F9E0, 12, 0x285D20285ED0090940090F100911102872E00911B0092380092D70092D800927C0093F9⟩,
   ⟨0x2F9EC, 12, 0x9415028BFA00958B0049950095B7028D770049E60096C3005DB200972302914502921A⟩,
   ⟨0x2F9F8, 12, 0x4A6E004A760097E002940A004AB202949600980B00980B0098290295B60098E2004B33⟩,
   ⟨0x2FA04, 12, 0x99290099A70099C20099FE004BCE029B30009B12009C40009CFD004CCE004CED009D67⟩,
   ⟨0x2FA10, 12, 0x2A0CE004CF802A10502A20E02A291009EBB004D56009EF9009EFE009F05009F0F009F16⟩,
   ⟨0x2FA1C, 2, 0x9F3B02A600⟩]

/-- Compatibility decompositions of single characters, fully expanded. -/
def decompositions : ImageTable where
  shifts :=
    [⟨0x2074, 0x2079, 0x34⟩, ⟨0x2080, 0x2089, 0x30⟩, ⟨0x2135, 0x2138, 0x5D0⟩,
     ⟨0x2460, 0x2468, 0x31⟩, ⟨0x24B6, 0x24CF, 0x41⟩, ⟨0x24D0, 0x24E9, 0x61⟩,
     ⟨0x313A, 0x313F, 0x11B0⟩, ⟨0x3145, 0x314E, 0x1109⟩,
     ⟨0x314F, 0x3163, 0x1161⟩, ⟨0x3178, 0x317C, 0x112B⟩,
     ⟨0x3269, 0x326D, 0x110E⟩, ⟨0x32E4, 0x32E9, 0x30CA⟩,
     ⟨0x32EE, 0x32F2, 0x30DE⟩, ⟨0x32F5, 0x32FA, 0x30E8⟩,
     ⟨0x32FB, 0x32FE, 0x30EF⟩, ⟨0xFE41, 0xFE44, 0x300C⟩, ⟨0xFF01, 0xFF5E, 0x21⟩,
     ⟨0xFF85, 0xFF8A, 0x30CA⟩, ⟨0xFF8F, 0xFF93, 0x30DE⟩,
     ⟨0xFF96, 0xFF9B, 0x30E8⟩, ⟨0xFFAA, 0xFFAF, 0x11B0⟩,
     ⟨0xFFB5, 0xFFBE, 0x1109⟩, ⟨0xFFC2, 0xFFC7, 0x1161⟩,
     ⟨0xFFCA, 0xFFCF, 0x1167⟩, ⟨0xFFD2, 0xFFD7, 0x116D⟩,
     ⟨0xFFE9, 0xFFEC, 0x2190⟩, ⟨0x1D400, 0x1D419, 0x41⟩,
     ⟨0x1D41A, 0x1D433, 0x61⟩, ⟨0x1D434, 0x1D44D, 0x41⟩,
     ⟨0x1D44E, 0x1D454, 0x61⟩, ⟨0x1D456, 0x1D467, 0x69⟩,
     ⟨0x1D468, 0x1D481, 0x41⟩, ⟨0x1D482, 0x1D49B, 0x61⟩,
     ⟨0x1D4A9, 0x1D4AC, 0x4E⟩, ⟨0x1D4AE, 0x1D4B5, 0x53⟩,
     ⟨0x1D4B6, 0x1D4B9, 0x61⟩, ⟨0x1D4BD, 0x1D4C0, 0x68⟩,
     ⟨0x1D4C5, 0x1D4CF, 0x70⟩, ⟨0x1D4D0, 0x1D4E9, 0x41⟩,
     ⟨0x1D4EA, 0x1D503, 0x61⟩, ⟨0x1D507, 0x1D50A, 0x44⟩,
     ⟨0x1D50D, 0x1D514, 0x4A⟩, ⟨0x1D516, 0x1D51C, 0x53⟩,
     ⟨0x1D51E, 0x1D537, 0x61⟩, ⟨0x1D53B, 0x1D53E, 0x44⟩,
     ⟨0x1D540, 0x1D544, 0x49⟩, ⟨0x1D54A, 0x1D550, 0x53⟩,
     ⟨0x1D552, 0x1D56B, 0x61⟩, ⟨0x1D56C, 0x1D585, 0x41⟩,
     ⟨0x1D586, 0x1D59F, 0x61⟩, ⟨0x1D5A0, 0x1D5B9, 0x41⟩,
     ⟨0x1D5BA, 0x1D5D3, 0x61⟩, ⟨0x1D5D4, 0x1D5ED, 0x41⟩,
     ⟨0x1D5EE, 0x1D607, 0x61⟩, ⟨0x1D608, 0x1D621, 0x41⟩,
     ⟨0x1D622, 0x1D63B, 0x61⟩, ⟨0x1D63C, 0x1D655, 0x41⟩,
     ⟨0x1D656, 0x1D66F, 0x61⟩, ⟨0x1D670, 0x1D689, 0x41⟩,
     ⟨0x1D68A, 0x1D6A3, 0x61⟩, ⟨0x1D6A8, 0x1D6B8, 0x391⟩,
     ⟨0x1D6BA, 0x1D6C0, 0x3A3⟩, ⟨0x1D6C2, 0x1D6DA, 0x3B1⟩,
     ⟨0x1D6E2, 0x1D6F2, 0x391⟩, ⟨0x1D6F4, 0x1D6FA, 0x3A3⟩,
     ⟨0x1D6FC, 0x1D714, 0x3B1⟩, ⟨0x1D71C, 0x1D72C, 0x391⟩,
     ⟨0x1D72E, 0x1D734, 0x3A3⟩, ⟨0x1D736, 0x1D74E, 0x3B1⟩,
     ⟨0x1D756, 0x1D766, 0x391⟩, ⟨0x1D768, 0x1D76E, 0x3A3⟩,
     ⟨0x1D770, 0x1D788, 0x3B1⟩, ⟨0x1D790, 0x1D7A0, 0x391⟩,
     ⟨0x1D7A2, 0x1D7A8, 0x3A3⟩, ⟨0x1D7AA, 0x1D7C2, 0x3B1⟩,
     ⟨0x1D7CE, 0x1D7D7, 0x30⟩, ⟨0x1D7D8, 0x1D7E1, 0x30⟩,
     ⟨0x1D7E2, 0x1D7EB, 0x30⟩, ⟨0x1D7EC, 0x1D7F5, 0x30⟩,
     ⟨0x1D7F6, 0x1D7FF, 0x30⟩]
  rows := decompositionRows1 ++ decompositionRows2 ++ decompositionRows3 ++ decompositionRows4 ++ decompositionRows5 ++ decompositionRows6 ++ decompositionRows7

/-- The compatibility decomposition of one character. -/
def decompose (c : Char) : List Char :=
  if c.toNat < 0x80 then [c]
  else if 0xAC00 ≤ c.toNat && c.toNat ≤ 0xD7A3 then
    let s := c.toNat - 0xAC00
    [0x1100 + s / 588, 0x1161 + s % 588 / 28].map Char.ofNat
      ++ (if s % 28 = 0 then [] else [Char.ofNat (0x11A7 + s % 28)])
  else (decompositions.image? c).getD [c]

end FeatureGrant.Text
