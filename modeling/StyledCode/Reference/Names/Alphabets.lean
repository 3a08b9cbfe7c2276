/-!
# Named references: Greek and Cyrillic letters

* `alphabets` : character codes in ascending order, each with the names that stand for it, for
  spacing and combining marks, and the letters of the Greek and Cyrillic alphabets
-/

namespace StyledCode.Reference.Names

/-- Codes and names for spacing and combining marks, and the letters of the Greek and Cyrillic alphabets. -/
def alphabets : List (Nat × List String) :=
  [(0x2c6, ["circ"]), (0x2c7, ["Hacek", "caron"]), (0x2d8, ["Breve", "breve"]),
    (0x2d9, ["dot", "DiacriticalDot"]), (0x2da, ["ring"]), (0x2db, ["ogon"]),
    (0x2dc, ["tilde", "DiacriticalTilde"]), (0x2dd, ["dblac", "DiacriticalDoubleAcute"]),
    (0x311, ["DownBreve"]), (0x332, ["UnderBar"]), (0x391, ["Alpha"]), (0x392, ["Beta"]), (0x393, ["Gamma"]),
    (0x394, ["Delta"]), (0x395, ["Epsilon"]), (0x396, ["Zeta"]), (0x397, ["Eta"]), (0x398, ["Theta"]),
    (0x399, ["Iota"]), (0x39a, ["Kappa"]), (0x39b, ["Lambda"]), (0x39c, ["Mu"]), (0x39d, ["Nu"]),
    (0x39e, ["Xi"]), (0x39f, ["Omicron"]), (0x3a0, ["Pi"]), (0x3a1, ["Rho"]), (0x3a3, ["Sigma"]),
    (0x3a4, ["Tau"]), (0x3a5, ["Upsilon"]), (0x3a6, ["Phi"]), (0x3a7, ["Chi"]), (0x3a8, ["Psi"]),
    (0x3a9, ["Omega"]), (0x3b1, ["alpha"]), (0x3b2, ["beta"]), (0x3b3, ["gamma"]), (0x3b4, ["delta"]),
    (0x3b5, ["epsiv", "epsilon", "varepsilon"]), (0x3b6, ["zeta"]), (0x3b7, ["eta"]), (0x3b8, ["theta"]),
    (0x3b9, ["iota"]), (0x3ba, ["kappa"]), (0x3bb, ["lambda"]), (0x3bc, ["mu"]), (0x3bd, ["nu"]),
    (0x3be, ["xi"]), (0x3bf, ["omicron"]), (0x3c0, ["pi"]), (0x3c1, ["rho"]),
    (0x3c2, ["sigmaf", "sigmav", "varsigma"]), (0x3c3, ["sigma"]), (0x3c4, ["tau"]),
    (0x3c5, ["upsi", "upsilon"]), (0x3c6, ["phi", "phiv", "varphi"]), (0x3c7, ["chi"]), (0x3c8, ["psi"]),
    (0x3c9, ["omega"]), (0x3d1, ["thetav", "thetasym", "vartheta"]), (0x3d2, ["Upsi", "upsih"]),
    (0x3d5, ["straightphi"]), (0x3d6, ["piv", "varpi"]), (0x3dc, ["Gammad"]), (0x3dd, ["gammad", "digamma"]),
    (0x3f0, ["kappav", "varkappa"]), (0x3f1, ["rhov", "varrho"]), (0x3f5, ["epsi", "straightepsilon"]),
    (0x3f6, ["bepsi", "backepsilon"]), (0x401, ["IOcy"]), (0x402, ["DJcy"]), (0x403, ["GJcy"]),
    (0x404, ["Jukcy"]), (0x405, ["DScy"]), (0x406, ["Iukcy"]), (0x407, ["YIcy"]), (0x408, ["Jsercy"]),
    (0x409, ["LJcy"]), (0x40a, ["NJcy"]), (0x40b, ["TSHcy"]), (0x40c, ["KJcy"]), (0x40e, ["Ubrcy"]),
    (0x40f, ["DZcy"]), (0x410, ["Acy"]), (0x411, ["Bcy"]), (0x412, ["Vcy"]), (0x413, ["Gcy"]),
    (0x414, ["Dcy"]), (0x415, ["IEcy"]), (0x416, ["ZHcy"]), (0x417, ["Zcy"]), (0x418, ["Icy"]),
    (0x419, ["Jcy"]), (0x41a, ["Kcy"]), (0x41b, ["Lcy"]), (0x41c, ["Mcy"]), (0x41d, ["Ncy"]),
    (0x41e, ["Ocy"]), (0x41f, ["Pcy"]), (0x420, ["Rcy"]), (0x421, ["Scy"]), (0x422, ["Tcy"]),
    (0x423, ["Ucy"]), (0x424, ["Fcy"]), (0x425, ["KHcy"]), (0x426, ["TScy"]), (0x427, ["CHcy"]),
    (0x428, ["SHcy"]), (0x429, ["SHCHcy"]), (0x42a, ["HARDcy"]), (0x42b, ["Ycy"]), (0x42c, ["SOFTcy"]),
    (0x42d, ["Ecy"]), (0x42e, ["YUcy"]), (0x42f, ["YAcy"]), (0x430, ["acy"]), (0x431, ["bcy"]),
    (0x432, ["vcy"]), (0x433, ["gcy"]), (0x434, ["dcy"]), (0x435, ["iecy"]), (0x436, ["zhcy"]),
    (0x437, ["zcy"]), (0x438, ["icy"]), (0x439, ["jcy"]), (0x43a, ["kcy"]), (0x43b, ["lcy"]),
    (0x43c, ["mcy"]), (0x43d, ["ncy"]), (0x43e, ["ocy"]), (0x43f, ["pcy"]), (0x440, ["rcy"]),
    (0x441, ["scy"]), (0x442, ["tcy"]), (0x443, ["ucy"]), (0x444, ["fcy"]), (0x445, ["khcy"]),
    (0x446, ["tscy"]), (0x447, ["chcy"]), (0x448, ["shcy"]), (0x449, ["shchcy"]), (0x44a, ["hardcy"]),
    (0x44b, ["ycy"]), (0x44c, ["softcy"]), (0x44d, ["ecy"]), (0x44e, ["yucy"]), (0x44f, ["yacy"]),
    (0x451, ["iocy"]), (0x452, ["djcy"]), (0x453, ["gjcy"]), (0x454, ["jukcy"]), (0x455, ["dscy"]),
    (0x456, ["iukcy"]), (0x457, ["yicy"]), (0x458, ["jsercy"]), (0x459, ["ljcy"]), (0x45a, ["njcy"]),
    (0x45b, ["tshcy"]), (0x45c, ["kjcy"]), (0x45e, ["ubrcy"]), (0x45f, ["dzcy"])]

end StyledCode.Reference.Names
