/-!
# Named references: Mathematical operators

* `operators` : character codes in ascending order, each with the names that stand for it, for
  the block of mathematical operators
-/

namespace StyledCode.Reference.Names

/-- Codes and names for the block of mathematical operators. -/
def operators : List (Nat × List String) :=
  [(0x2200, ["ForAll", "forall"]), (0x2201, ["comp", "complement"]), (0x2202, ["part", "PartialD"]),
    (0x2203, ["exist", "Exists"]), (0x2204, ["nexist", "nexists", "NotExists"]),
    (0x2205, ["empty", "emptyv", "emptyset", "varnothing"]), (0x2207, ["Del", "nabla"]),
    (0x2208, ["in", "isin", "isinv", "Element"]), (0x2209, ["notin", "notinva", "NotElement"]),
    (0x220b, ["ni", "niv", "SuchThat", "ReverseElement"]),
    (0x220c, ["notni", "notniva", "NotReverseElement"]), (0x220f, ["prod", "Product"]),
    (0x2210, ["coprod", "Coproduct"]), (0x2211, ["Sum", "sum"]), (0x2212, ["minus"]),
    (0x2213, ["mp", "mnplus", "MinusPlus"]), (0x2214, ["plusdo", "dotplus"]),
    (0x2216, ["setmn", "ssetmn", "setminus", "Backslash", "smallsetminus"]), (0x2217, ["lowast"]),
    (0x2218, ["compfn", "SmallCircle"]), (0x221a, ["Sqrt", "radic"]),
    (0x221d, ["prop", "vprop", "propto", "varpropto", "Proportional"]), (0x221e, ["infin"]),
    (0x221f, ["angrt"]), (0x2220, ["ang", "angle"]), (0x2221, ["angmsd", "measuredangle"]),
    (0x2222, ["angsph"]), (0x2223, ["mid", "smid", "shortmid", "VerticalBar"]),
    (0x2224, ["nmid", "nsmid", "nshortmid", "NotVerticalBar"]),
    (0x2225, ["par", "spar", "parallel", "shortparallel", "DoubleVerticalBar"]),
    (0x2226, ["npar", "nspar", "nparallel", "nshortparallel", "NotDoubleVerticalBar"]),
    (0x2227, ["and", "wedge"]), (0x2228, ["or", "vee"]), (0x2229, ["cap"]), (0x222a, ["cup"]),
    (0x222b, ["int", "Integral"]), (0x222c, ["Int"]), (0x222d, ["tint", "iiint"]),
    (0x222e, ["oint", "conint", "ContourIntegral"]), (0x222f, ["Conint", "DoubleContourIntegral"]),
    (0x2230, ["Cconint"]), (0x2231, ["cwint"]), (0x2232, ["cwconint", "ClockwiseContourIntegral"]),
    (0x2233, ["awconint", "CounterClockwiseContourIntegral"]), (0x2234, ["there4", "Therefore", "therefore"]),
    (0x2235, ["becaus", "Because", "because"]), (0x2236, ["ratio"]), (0x2237, ["Colon", "Proportion"]),
    (0x2238, ["minusd", "dotminus"]), (0x223a, ["mDDot"]), (0x223b, ["homtht"]),
    (0x223c, ["sim", "Tilde", "thksim", "thicksim"]), (0x223d, ["bsim", "backsim"]),
    (0x223e, ["ac", "mstpos"]), (0x223f, ["acd"]), (0x2240, ["wr", "wreath", "VerticalTilde"]),
    (0x2241, ["nsim", "NotTilde"]), (0x2242, ["esim", "eqsim", "EqualTilde"]),
    (0x2243, ["sime", "simeq", "TildeEqual"]), (0x2244, ["nsime", "nsimeq", "NotTildeEqual"]),
    (0x2245, ["cong", "TildeFullEqual"]), (0x2246, ["simne"]), (0x2247, ["ncong", "NotTildeFullEqual"]),
    (0x2248, ["ap", "asymp", "thkap", "approx", "TildeTilde", "thickapprox"]),
    (0x2249, ["nap", "napprox", "NotTildeTilde"]), (0x224a, ["ape", "approxeq"]), (0x224b, ["apid"]),
    (0x224c, ["bcong", "backcong"]), (0x224d, ["CupCap", "asympeq"]),
    (0x224e, ["bump", "Bumpeq", "HumpDownHump"]), (0x224f, ["bumpe", "bumpeq", "HumpEqual"]),
    (0x2250, ["doteq", "esdot", "DotEqual"]), (0x2251, ["eDot", "doteqdot"]),
    (0x2252, ["efDot", "fallingdotseq"]), (0x2253, ["erDot", "risingdotseq"]),
    (0x2254, ["Assign", "colone", "coloneq"]), (0x2255, ["ecolon", "eqcolon"]), (0x2256, ["ecir", "eqcirc"]),
    (0x2257, ["cire", "circeq"]), (0x2259, ["wedgeq"]), (0x225a, ["veeeq"]), (0x225c, ["trie", "triangleq"]),
    (0x225f, ["equest", "questeq"]), (0x2260, ["ne", "NotEqual"]), (0x2261, ["equiv", "Congruent"]),
    (0x2262, ["nequiv", "NotCongruent"]), (0x2264, ["le", "leq"]), (0x2265, ["ge", "geq", "GreaterEqual"]),
    (0x2266, ["lE", "leqq", "LessFullEqual"]), (0x2267, ["gE", "geqq", "GreaterFullEqual"]),
    (0x2268, ["lnE", "lneqq"]), (0x2269, ["gnE", "gneqq"]), (0x226a, ["Lt", "ll", "NestedLessLess"]),
    (0x226b, ["Gt", "gg", "NestedGreaterGreater"]), (0x226c, ["twixt", "between"]), (0x226d, ["NotCupCap"]),
    (0x226e, ["nlt", "nless", "NotLess"]), (0x226f, ["ngt", "ngtr", "NotGreater"]),
    (0x2270, ["nle", "nleq", "NotLessEqual"]), (0x2271, ["nge", "ngeq", "NotGreaterEqual"]),
    (0x2272, ["lsim", "lesssim", "LessTilde"]), (0x2273, ["gsim", "gtrsim", "GreaterTilde"]),
    (0x2274, ["nlsim", "NotLessTilde"]), (0x2275, ["ngsim", "NotGreaterTilde"]),
    (0x2276, ["lg", "lessgtr", "LessGreater"]), (0x2277, ["gl", "gtrless", "GreaterLess"]),
    (0x2278, ["ntlg", "NotLessGreater"]), (0x2279, ["ntgl", "NotGreaterLess"]),
    (0x227a, ["pr", "prec", "Precedes"]), (0x227b, ["sc", "succ", "Succeeds"]),
    (0x227c, ["prcue", "preccurlyeq", "PrecedesSlantEqual"]),
    (0x227d, ["sccue", "succcurlyeq", "SucceedsSlantEqual"]), (0x227e, ["prsim", "precsim", "PrecedesTilde"]),
    (0x227f, ["scsim", "succsim", "SucceedsTilde"]), (0x2280, ["npr", "nprec", "NotPrecedes"]),
    (0x2281, ["nsc", "nsucc", "NotSucceeds"]), (0x2282, ["sub", "subset"]),
    (0x2283, ["sup", "supset", "Superset"]), (0x2284, ["nsub"]), (0x2285, ["nsup"]),
    (0x2286, ["sube", "subseteq", "SubsetEqual"]), (0x2287, ["supe", "supseteq", "SupersetEqual"]),
    (0x2288, ["nsube", "nsubseteq", "NotSubsetEqual"]), (0x2289, ["nsupe", "nsupseteq", "NotSupersetEqual"]),
    (0x228a, ["subne", "subsetneq"]), (0x228b, ["supne", "supsetneq"]), (0x228d, ["cupdot"]),
    (0x228e, ["uplus", "UnionPlus"]), (0x228f, ["sqsub", "sqsubset", "SquareSubset"]),
    (0x2290, ["sqsup", "sqsupset", "SquareSuperset"]),
    (0x2291, ["sqsube", "sqsubseteq", "SquareSubsetEqual"]),
    (0x2292, ["sqsupe", "sqsupseteq", "SquareSupersetEqual"]), (0x2293, ["sqcap", "SquareIntersection"]),
    (0x2294, ["sqcup", "SquareUnion"]), (0x2295, ["oplus", "CirclePlus"]),
    (0x2296, ["ominus", "CircleMinus"]), (0x2297, ["otimes", "CircleTimes"]), (0x2298, ["osol"]),
    (0x2299, ["odot", "CircleDot"]), (0x229a, ["ocir", "circledcirc"]), (0x229b, ["oast", "circledast"]),
    (0x229d, ["odash", "circleddash"]), (0x229e, ["plusb", "boxplus"]), (0x229f, ["minusb", "boxminus"]),
    (0x22a0, ["timesb", "boxtimes"]), (0x22a1, ["sdotb", "dotsquare"]), (0x22a2, ["vdash", "RightTee"]),
    (0x22a3, ["dashv", "LeftTee"]), (0x22a4, ["top", "DownTee"]),
    (0x22a5, ["bot", "perp", "UpTee", "bottom"]), (0x22a7, ["models"]), (0x22a8, ["vDash", "DoubleRightTee"]),
    (0x22a9, ["Vdash"]), (0x22aa, ["Vvdash"]), (0x22ab, ["VDash"]), (0x22ac, ["nvdash"]),
    (0x22ad, ["nvDash"]), (0x22ae, ["nVdash"]), (0x22af, ["nVDash"]), (0x22b0, ["prurel"]),
    (0x22b2, ["vltri", "LeftTriangle", "vartriangleleft"]),
    (0x22b3, ["vrtri", "RightTriangle", "vartriangleright"]),
    (0x22b4, ["ltrie", "trianglelefteq", "LeftTriangleEqual"]),
    (0x22b5, ["rtrie", "trianglerighteq", "RightTriangleEqual"]), (0x22b6, ["origof"]), (0x22b7, ["imof"]),
    (0x22b8, ["mumap", "multimap"]), (0x22b9, ["hercon"]), (0x22ba, ["intcal", "intercal"]),
    (0x22bb, ["veebar"]), (0x22bd, ["barvee"]), (0x22be, ["angrtvb"]), (0x22bf, ["lrtri"]),
    (0x22c0, ["Wedge", "xwedge", "bigwedge"]), (0x22c1, ["Vee", "xvee", "bigvee"]),
    (0x22c2, ["xcap", "bigcap", "Intersection"]), (0x22c3, ["xcup", "Union", "bigcup"]),
    (0x22c4, ["diam", "Diamond", "diamond"]), (0x22c5, ["sdot"]), (0x22c6, ["Star", "sstarf"]),
    (0x22c7, ["divonx", "divideontimes"]), (0x22c8, ["bowtie"]), (0x22c9, ["ltimes"]), (0x22ca, ["rtimes"]),
    (0x22cb, ["lthree", "leftthreetimes"]), (0x22cc, ["rthree", "rightthreetimes"]),
    (0x22cd, ["bsime", "backsimeq"]), (0x22ce, ["cuvee", "curlyvee"]), (0x22cf, ["cuwed", "curlywedge"]),
    (0x22d0, ["Sub", "Subset"]), (0x22d1, ["Sup", "Supset"]), (0x22d2, ["Cap"]), (0x22d3, ["Cup"]),
    (0x22d4, ["fork", "pitchfork"]), (0x22d5, ["epar"]), (0x22d6, ["ltdot", "lessdot"]),
    (0x22d7, ["gtdot", "gtrdot"]), (0x22d8, ["Ll"]), (0x22d9, ["Gg", "ggg"]),
    (0x22da, ["leg", "lesseqgtr", "LessEqualGreater"]), (0x22db, ["gel", "gtreqless", "GreaterEqualLess"]),
    (0x22de, ["cuepr", "curlyeqprec"]), (0x22df, ["cuesc", "curlyeqsucc"]),
    (0x22e0, ["nprcue", "NotPrecedesSlantEqual"]), (0x22e1, ["nsccue", "NotSucceedsSlantEqual"]),
    (0x22e2, ["nsqsube", "NotSquareSubsetEqual"]), (0x22e3, ["nsqsupe", "NotSquareSupersetEqual"]),
    (0x22e6, ["lnsim"]), (0x22e7, ["gnsim"]), (0x22e8, ["prnsim", "precnsim"]),
    (0x22e9, ["scnsim", "succnsim"]), (0x22ea, ["nltri", "ntriangleleft", "NotLeftTriangle"]),
    (0x22eb, ["nrtri", "ntriangleright", "NotRightTriangle"]),
    (0x22ec, ["nltrie", "ntrianglelefteq", "NotLeftTriangleEqual"]),
    (0x22ed, ["nrtrie", "ntrianglerighteq", "NotRightTriangleEqual"]), (0x22ee, ["vellip"]),
    (0x22ef, ["ctdot"]), (0x22f0, ["utdot"]), (0x22f1, ["dtdot"]), (0x22f2, ["disin"]), (0x22f3, ["isinsv"]),
    (0x22f4, ["isins"]), (0x22f5, ["isindot"]), (0x22f6, ["notinvc"]), (0x22f7, ["notinvb"]),
    (0x22f9, ["isinE"]), (0x22fa, ["nisd"]), (0x22fb, ["xnis"]), (0x22fc, ["nis"]), (0x22fd, ["notnivc"]),
    (0x22fe, ["notnivb"])]

end StyledCode.Reference.Names
