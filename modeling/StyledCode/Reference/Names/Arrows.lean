/-!
# Named references: Punctuation, letter-like symbols and arrows

* `arrows` : character codes in ascending order, each with the names that stand for it, for
  punctuation, currency signs, letter-like symbols and the first block of arrows
-/

namespace StyledCode.Reference.Names

/-- Codes and names for punctuation, currency signs, letter-like symbols and the first block of arrows. -/
def arrows : List (Nat × List String) :=
  [(0x2002, ["ensp"]), (0x2003, ["emsp"]), (0x2004, ["emsp13"]), (0x2005, ["emsp14"]), (0x2007, ["numsp"]),
    (0x2008, ["puncsp"]), (0x2009, ["thinsp", "ThinSpace"]), (0x200a, ["hairsp", "VeryThinSpace"]),
    (0x200b, ["ZeroWidthSpace", "NegativeThinSpace",
      "NegativeThickSpace", "NegativeMediumSpace", "NegativeVeryThinSpace"]), (0x200c, ["zwnj"]),
    (0x200d, ["zwj"]), (0x200e, ["lrm"]), (0x200f, ["rlm"]), (0x2010, ["dash", "hyphen"]),
    (0x2013, ["ndash"]), (0x2014, ["mdash"]), (0x2015, ["horbar"]), (0x2016, ["Vert", "Verbar"]),
    (0x2018, ["lsquo", "OpenCurlyQuote"]), (0x2019, ["rsquo", "rsquor", "CloseCurlyQuote"]),
    (0x201a, ["sbquo", "lsquor"]), (0x201c, ["ldquo", "OpenCurlyDoubleQuote"]),
    (0x201d, ["rdquo", "rdquor", "CloseCurlyDoubleQuote"]), (0x201e, ["bdquo", "ldquor"]),
    (0x2020, ["dagger"]), (0x2021, ["Dagger", "ddagger"]), (0x2022, ["bull", "bullet"]), (0x2025, ["nldr"]),
    (0x2026, ["mldr", "hellip"]), (0x2030, ["permil"]), (0x2031, ["pertenk"]), (0x2032, ["prime"]),
    (0x2033, ["Prime"]), (0x2034, ["tprime"]), (0x2035, ["bprime", "backprime"]), (0x2039, ["lsaquo"]),
    (0x203a, ["rsaquo"]), (0x203e, ["oline"]), (0x2041, ["caret"]), (0x2043, ["hybull"]), (0x2044, ["frasl"]),
    (0x204f, ["bsemi"]), (0x2057, ["qprime"]), (0x205f, ["MediumSpace"]), (0x2060, ["NoBreak"]),
    (0x2061, ["af", "ApplyFunction"]), (0x2062, ["it", "InvisibleTimes"]), (0x2063, ["ic", "InvisibleComma"]),
    (0x20ac, ["euro"]), (0x20db, ["tdot", "TripleDot"]), (0x20dc, ["DotDot"]),
    (0x2102, ["Copf", "complexes"]), (0x2105, ["incare"]), (0x210a, ["gscr"]),
    (0x210b, ["Hscr", "hamilt", "HilbertSpace"]), (0x210c, ["Hfr", "Poincareplane"]),
    (0x210d, ["Hopf", "quaternions"]), (0x210e, ["planckh"]),
    (0x210f, ["hbar", "hslash", "planck", "plankv"]), (0x2110, ["Iscr", "imagline"]),
    (0x2111, ["Im", "Ifr", "image", "imagpart"]), (0x2112, ["Lscr", "lagran", "Laplacetrf"]),
    (0x2113, ["ell"]), (0x2115, ["Nopf", "naturals"]), (0x2116, ["numero"]), (0x2117, ["copysr"]),
    (0x2118, ["wp", "weierp"]), (0x2119, ["Popf", "primes"]), (0x211a, ["Qopf", "rationals"]),
    (0x211b, ["Rscr", "realine"]), (0x211c, ["Re", "Rfr", "real", "realpart"]), (0x211d, ["Ropf", "reals"]),
    (0x211e, ["rx"]), (0x2122, ["TRADE", "trade"]), (0x2124, ["Zopf", "integers"]), (0x2126, ["ohm"]),
    (0x2127, ["mho"]), (0x2128, ["Zfr", "zeetrf"]), (0x2129, ["iiota"]), (0x212b, ["angst"]),
    (0x212c, ["Bscr", "bernou", "Bernoullis"]), (0x212d, ["Cfr", "Cayleys"]), (0x212f, ["escr"]),
    (0x2130, ["Escr", "expectation"]), (0x2131, ["Fscr", "Fouriertrf"]),
    (0x2133, ["Mscr", "phmmat", "Mellintrf"]), (0x2134, ["oscr", "order", "orderof"]),
    (0x2135, ["aleph", "alefsym"]), (0x2136, ["beth"]), (0x2137, ["gimel"]), (0x2138, ["daleth"]),
    (0x2145, ["DD", "CapitalDifferentialD"]), (0x2146, ["dd", "DifferentialD"]),
    (0x2147, ["ee", "ExponentialE", "exponentiale"]), (0x2148, ["ii", "ImaginaryI"]), (0x2153, ["frac13"]),
    (0x2154, ["frac23"]), (0x2155, ["frac15"]), (0x2156, ["frac25"]), (0x2157, ["frac35"]),
    (0x2158, ["frac45"]), (0x2159, ["frac16"]), (0x215a, ["frac56"]), (0x215b, ["frac18"]),
    (0x215c, ["frac38"]), (0x215d, ["frac58"]), (0x215e, ["frac78"]),
    (0x2190, ["larr", "slarr", "LeftArrow", "leftarrow", "ShortLeftArrow"]),
    (0x2191, ["uarr", "UpArrow", "uparrow", "ShortUpArrow"]),
    (0x2192, ["rarr", "srarr", "RightArrow", "rightarrow", "ShortRightArrow"]),
    (0x2193, ["darr", "DownArrow", "downarrow", "ShortDownArrow"]),
    (0x2194, ["harr", "LeftRightArrow", "leftrightarrow"]), (0x2195, ["varr", "UpDownArrow", "updownarrow"]),
    (0x2196, ["nwarr", "nwarrow", "UpperLeftArrow"]), (0x2197, ["nearr", "nearrow", "UpperRightArrow"]),
    (0x2198, ["searr", "searrow", "LowerRightArrow"]), (0x2199, ["swarr", "swarrow", "LowerLeftArrow"]),
    (0x219a, ["nlarr", "nleftarrow"]), (0x219b, ["nrarr", "nrightarrow"]),
    (0x219d, ["rarrw", "rightsquigarrow"]), (0x219e, ["Larr", "twoheadleftarrow"]), (0x219f, ["Uarr"]),
    (0x21a0, ["Rarr", "twoheadrightarrow"]), (0x21a1, ["Darr"]), (0x21a2, ["larrtl", "leftarrowtail"]),
    (0x21a3, ["rarrtl", "rightarrowtail"]), (0x21a4, ["mapstoleft", "LeftTeeArrow"]),
    (0x21a5, ["mapstoup", "UpTeeArrow"]), (0x21a6, ["map", "mapsto", "RightTeeArrow"]),
    (0x21a7, ["mapstodown", "DownTeeArrow"]), (0x21a9, ["larrhk", "hookleftarrow"]),
    (0x21aa, ["rarrhk", "hookrightarrow"]), (0x21ab, ["larrlp", "looparrowleft"]),
    (0x21ac, ["rarrlp", "looparrowright"]), (0x21ad, ["harrw", "leftrightsquigarrow"]),
    (0x21ae, ["nharr", "nleftrightarrow"]), (0x21b0, ["Lsh", "lsh"]), (0x21b1, ["Rsh", "rsh"]),
    (0x21b2, ["ldsh"]), (0x21b3, ["rdsh"]), (0x21b5, ["crarr"]), (0x21b6, ["cularr", "curvearrowleft"]),
    (0x21b7, ["curarr", "curvearrowright"]), (0x21ba, ["olarr", "circlearrowleft"]),
    (0x21bb, ["orarr", "circlearrowright"]), (0x21bc, ["lharu", "LeftVector", "leftharpoonup"]),
    (0x21bd, ["lhard", "DownLeftVector", "leftharpoondown"]),
    (0x21be, ["uharr", "RightUpVector", "upharpoonright"]),
    (0x21bf, ["uharl", "LeftUpVector", "upharpoonleft"]),
    (0x21c0, ["rharu", "RightVector", "rightharpoonup"]),
    (0x21c1, ["rhard", "DownRightVector", "rightharpoondown"]),
    (0x21c2, ["dharr", "RightDownVector", "downharpoonright"]),
    (0x21c3, ["dharl", "LeftDownVector", "downharpoonleft"]),
    (0x21c4, ["rlarr", "rightleftarrows", "RightArrowLeftArrow"]), (0x21c5, ["udarr", "UpArrowDownArrow"]),
    (0x21c6, ["lrarr", "leftrightarrows", "LeftArrowRightArrow"]), (0x21c7, ["llarr", "leftleftarrows"]),
    (0x21c8, ["uuarr", "upuparrows"]), (0x21c9, ["rrarr", "rightrightarrows"]),
    (0x21ca, ["ddarr", "downdownarrows"]), (0x21cb, ["lrhar", "leftrightharpoons", "ReverseEquilibrium"]),
    (0x21cc, ["rlhar", "Equilibrium", "rightleftharpoons"]), (0x21cd, ["nlArr", "nLeftarrow"]),
    (0x21ce, ["nhArr", "nLeftrightarrow"]), (0x21cf, ["nrArr", "nRightarrow"]),
    (0x21d0, ["lArr", "Leftarrow", "DoubleLeftArrow"]), (0x21d1, ["uArr", "Uparrow", "DoubleUpArrow"]),
    (0x21d2, ["rArr", "Implies", "Rightarrow", "DoubleRightArrow"]),
    (0x21d3, ["dArr", "Downarrow", "DoubleDownArrow"]),
    (0x21d4, ["iff", "hArr", "Leftrightarrow", "DoubleLeftRightArrow"]),
    (0x21d5, ["vArr", "Updownarrow", "DoubleUpDownArrow"]), (0x21d6, ["nwArr"]), (0x21d7, ["neArr"]),
    (0x21d8, ["seArr"]), (0x21d9, ["swArr"]), (0x21da, ["lAarr", "Lleftarrow"]),
    (0x21db, ["rAarr", "Rrightarrow"]), (0x21dd, ["zigrarr"]), (0x21e4, ["larrb", "LeftArrowBar"]),
    (0x21e5, ["rarrb", "RightArrowBar"]), (0x21f5, ["duarr", "DownArrowUpArrow"]), (0x21fd, ["loarr"]),
    (0x21fe, ["roarr"]), (0x21ff, ["hoarr"])]

end StyledCode.Reference.Names
