/-!
# Named references: Latin letters and signs

* `latin` : character codes in ascending order, each with the names that stand for it, for
  the signs and letters of the Latin blocks
-/

namespace StyledCode.Reference.Names

/-- Codes and names for the signs and letters of the Latin blocks. -/
def latin : List (Nat × List String) :=
  [(0x9, ["Tab"]), (0xa, ["NewLine"]), (0x21, ["excl"]), (0x22, ["QUOT", "quot"]), (0x23, ["num"]),
    (0x24, ["dollar"]), (0x25, ["percnt"]), (0x26, ["AMP", "amp"]), (0x27, ["apos"]), (0x28, ["lpar"]),
    (0x29, ["rpar"]), (0x2a, ["ast", "midast"]), (0x2b, ["plus"]), (0x2c, ["comma"]), (0x2e, ["period"]),
    (0x2f, ["sol"]), (0x3a, ["colon"]), (0x3b, ["semi"]), (0x3c, ["LT", "lt"]), (0x3d, ["equals"]),
    (0x3e, ["GT", "gt"]), (0x3f, ["quest"]), (0x40, ["commat"]), (0x5b, ["lsqb", "lbrack"]), (0x5c, ["bsol"]),
    (0x5d, ["rsqb", "rbrack"]), (0x5e, ["Hat"]), (0x5f, ["lowbar"]), (0x60, ["grave", "DiacriticalGrave"]),
    (0x7b, ["lcub", "lbrace"]), (0x7c, ["vert", "verbar", "VerticalLine"]), (0x7d, ["rcub", "rbrace"]),
    (0xa0, ["nbsp", "NonBreakingSpace"]), (0xa1, ["iexcl"]), (0xa2, ["cent"]), (0xa3, ["pound"]),
    (0xa4, ["curren"]), (0xa5, ["yen"]), (0xa6, ["brvbar"]), (0xa7, ["sect"]),
    (0xa8, ["Dot", "die", "uml", "DoubleDot"]), (0xa9, ["COPY", "copy"]), (0xaa, ["ordf"]), (0xab, ["laquo"]),
    (0xac, ["not"]), (0xad, ["shy"]), (0xae, ["REG", "reg", "circledR"]),
    (0xaf, ["macr", "strns", "OverBar"]), (0xb0, ["deg"]), (0xb1, ["pm", "plusmn", "PlusMinus"]),
    (0xb2, ["sup2"]), (0xb3, ["sup3"]), (0xb4, ["acute", "DiacriticalAcute"]), (0xb5, ["micro"]),
    (0xb6, ["para"]), (0xb7, ["middot", "CenterDot", "centerdot"]), (0xb8, ["cedil", "Cedilla"]),
    (0xb9, ["sup1"]), (0xba, ["ordm"]), (0xbb, ["raquo"]), (0xbc, ["frac14"]), (0xbd, ["half", "frac12"]),
    (0xbe, ["frac34"]), (0xbf, ["iquest"]), (0xc0, ["Agrave"]), (0xc1, ["Aacute"]), (0xc2, ["Acirc"]),
    (0xc3, ["Atilde"]), (0xc4, ["Auml"]), (0xc5, ["Aring"]), (0xc6, ["AElig"]), (0xc7, ["Ccedil"]),
    (0xc8, ["Egrave"]), (0xc9, ["Eacute"]), (0xca, ["Ecirc"]), (0xcb, ["Euml"]), (0xcc, ["Igrave"]),
    (0xcd, ["Iacute"]), (0xce, ["Icirc"]), (0xcf, ["Iuml"]), (0xd0, ["ETH"]), (0xd1, ["Ntilde"]),
    (0xd2, ["Ograve"]), (0xd3, ["Oacute"]), (0xd4, ["Ocirc"]), (0xd5, ["Otilde"]), (0xd6, ["Ouml"]),
    (0xd7, ["times"]), (0xd8, ["Oslash"]), (0xd9, ["Ugrave"]), (0xda, ["Uacute"]), (0xdb, ["Ucirc"]),
    (0xdc, ["Uuml"]), (0xdd, ["Yacute"]), (0xde, ["THORN"]), (0xdf, ["szlig"]), (0xe0, ["agrave"]),
    (0xe1, ["aacute"]), (0xe2, ["acirc"]), (0xe3, ["atilde"]), (0xe4, ["auml"]), (0xe5, ["aring"]),
    (0xe6, ["aelig"]), (0xe7, ["ccedil"]), (0xe8, ["egrave"]), (0xe9, ["eacute"]), (0xea, ["ecirc"]),
    (0xeb, ["euml"]), (0xec, ["igrave"]), (0xed, ["iacute"]), (0xee, ["icirc"]), (0xef, ["iuml"]),
    (0xf0, ["eth"]), (0xf1, ["ntilde"]), (0xf2, ["ograve"]), (0xf3, ["oacute"]), (0xf4, ["ocirc"]),
    (0xf5, ["otilde"]), (0xf6, ["ouml"]), (0xf7, ["div", "divide"]), (0xf8, ["oslash"]), (0xf9, ["ugrave"]),
    (0xfa, ["uacute"]), (0xfb, ["ucirc"]), (0xfc, ["uuml"]), (0xfd, ["yacute"]), (0xfe, ["thorn"]),
    (0xff, ["yuml"]), (0x100, ["Amacr"]), (0x101, ["amacr"]), (0x102, ["Abreve"]), (0x103, ["abreve"]),
    (0x104, ["Aogon"]), (0x105, ["aogon"]), (0x106, ["Cacute"]), (0x107, ["cacute"]), (0x108, ["Ccirc"]),
    (0x109, ["ccirc"]), (0x10a, ["Cdot"]), (0x10b, ["cdot"]), (0x10c, ["Ccaron"]), (0x10d, ["ccaron"]),
    (0x10e, ["Dcaron"]), (0x10f, ["dcaron"]), (0x110, ["Dstrok"]), (0x111, ["dstrok"]), (0x112, ["Emacr"]),
    (0x113, ["emacr"]), (0x116, ["Edot"]), (0x117, ["edot"]), (0x118, ["Eogon"]), (0x119, ["eogon"]),
    (0x11a, ["Ecaron"]), (0x11b, ["ecaron"]), (0x11c, ["Gcirc"]), (0x11d, ["gcirc"]), (0x11e, ["Gbreve"]),
    (0x11f, ["gbreve"]), (0x120, ["Gdot"]), (0x121, ["gdot"]), (0x122, ["Gcedil"]), (0x124, ["Hcirc"]),
    (0x125, ["hcirc"]), (0x126, ["Hstrok"]), (0x127, ["hstrok"]), (0x128, ["Itilde"]), (0x129, ["itilde"]),
    (0x12a, ["Imacr"]), (0x12b, ["imacr"]), (0x12e, ["Iogon"]), (0x12f, ["iogon"]), (0x130, ["Idot"]),
    (0x131, ["imath", "inodot"]), (0x132, ["IJlig"]), (0x133, ["ijlig"]), (0x134, ["Jcirc"]),
    (0x135, ["jcirc"]), (0x136, ["Kcedil"]), (0x137, ["kcedil"]), (0x138, ["kgreen"]), (0x139, ["Lacute"]),
    (0x13a, ["lacute"]), (0x13b, ["Lcedil"]), (0x13c, ["lcedil"]), (0x13d, ["Lcaron"]), (0x13e, ["lcaron"]),
    (0x13f, ["Lmidot"]), (0x140, ["lmidot"]), (0x141, ["Lstrok"]), (0x142, ["lstrok"]), (0x143, ["Nacute"]),
    (0x144, ["nacute"]), (0x145, ["Ncedil"]), (0x146, ["ncedil"]), (0x147, ["Ncaron"]), (0x148, ["ncaron"]),
    (0x149, ["napos"]), (0x14a, ["ENG"]), (0x14b, ["eng"]), (0x14c, ["Omacr"]), (0x14d, ["omacr"]),
    (0x150, ["Odblac"]), (0x151, ["odblac"]), (0x152, ["OElig"]), (0x153, ["oelig"]), (0x154, ["Racute"]),
    (0x155, ["racute"]), (0x156, ["Rcedil"]), (0x157, ["rcedil"]), (0x158, ["Rcaron"]), (0x159, ["rcaron"]),
    (0x15a, ["Sacute"]), (0x15b, ["sacute"]), (0x15c, ["Scirc"]), (0x15d, ["scirc"]), (0x15e, ["Scedil"]),
    (0x15f, ["scedil"]), (0x160, ["Scaron"]), (0x161, ["scaron"]), (0x162, ["Tcedil"]), (0x163, ["tcedil"]),
    (0x164, ["Tcaron"]), (0x165, ["tcaron"]), (0x166, ["Tstrok"]), (0x167, ["tstrok"]), (0x168, ["Utilde"]),
    (0x169, ["utilde"]), (0x16a, ["Umacr"]), (0x16b, ["umacr"]), (0x16c, ["Ubreve"]), (0x16d, ["ubreve"]),
    (0x16e, ["Uring"]), (0x16f, ["uring"]), (0x170, ["Udblac"]), (0x171, ["udblac"]), (0x172, ["Uogon"]),
    (0x173, ["uogon"]), (0x174, ["Wcirc"]), (0x175, ["wcirc"]), (0x176, ["Ycirc"]), (0x177, ["ycirc"]),
    (0x178, ["Yuml"]), (0x179, ["Zacute"]), (0x17a, ["zacute"]), (0x17b, ["Zdot"]), (0x17c, ["zdot"]),
    (0x17d, ["Zcaron"]), (0x17e, ["zcaron"]), (0x192, ["fnof"]), (0x1b5, ["imped"]), (0x1f5, ["gacute"]),
    (0x237, ["jmath"])]

end StyledCode.Reference.Names
