/-!
# Named references: Supplemental arrows and operators

* `supplements` : character codes in ascending order, each with the names that stand for it, for
  the supplemental blocks of arrows and operators, and the ligatures
-/

namespace StyledCode.Reference.Names

/-- Codes and names for the supplemental blocks of arrows and operators, and the ligatures. -/
def supplements : List (Nat × List String) :=
  [(0x2902, ["nvlArr"]), (0x2903, ["nvrArr"]), (0x2904, ["nvHarr"]), (0x2905, ["Map"]), (0x290c, ["lbarr"]),
    (0x290d, ["rbarr", "bkarow"]), (0x290e, ["lBarr"]), (0x290f, ["rBarr", "dbkarow"]),
    (0x2910, ["RBarr", "drbkarow"]), (0x2911, ["DDotrahd"]), (0x2912, ["UpArrowBar"]),
    (0x2913, ["DownArrowBar"]), (0x2916, ["Rarrtl"]), (0x2919, ["latail"]), (0x291a, ["ratail"]),
    (0x291b, ["lAtail"]), (0x291c, ["rAtail"]), (0x291d, ["larrfs"]), (0x291e, ["rarrfs"]),
    (0x291f, ["larrbfs"]), (0x2920, ["rarrbfs"]), (0x2923, ["nwarhk"]), (0x2924, ["nearhk"]),
    (0x2925, ["searhk", "hksearow"]), (0x2926, ["swarhk", "hkswarow"]), (0x2927, ["nwnear"]),
    (0x2928, ["toea", "nesear"]), (0x2929, ["tosa", "seswar"]), (0x292a, ["swnwar"]), (0x2933, ["rarrc"]),
    (0x2935, ["cudarrr"]), (0x2936, ["ldca"]), (0x2937, ["rdca"]), (0x2938, ["cudarrl"]),
    (0x2939, ["larrpl"]), (0x293c, ["curarrm"]), (0x293d, ["cularrp"]), (0x2945, ["rarrpl"]),
    (0x2948, ["harrcir"]), (0x2949, ["Uarrocir"]), (0x294a, ["lurdshar"]), (0x294b, ["ldrushar"]),
    (0x294e, ["LeftRightVector"]), (0x294f, ["RightUpDownVector"]), (0x2950, ["DownLeftRightVector"]),
    (0x2951, ["LeftUpDownVector"]), (0x2952, ["LeftVectorBar"]), (0x2953, ["RightVectorBar"]),
    (0x2954, ["RightUpVectorBar"]), (0x2955, ["RightDownVectorBar"]), (0x2956, ["DownLeftVectorBar"]),
    (0x2957, ["DownRightVectorBar"]), (0x2958, ["LeftUpVectorBar"]), (0x2959, ["LeftDownVectorBar"]),
    (0x295a, ["LeftTeeVector"]), (0x295b, ["RightTeeVector"]), (0x295c, ["RightUpTeeVector"]),
    (0x295d, ["RightDownTeeVector"]), (0x295e, ["DownLeftTeeVector"]), (0x295f, ["DownRightTeeVector"]),
    (0x2960, ["LeftUpTeeVector"]), (0x2961, ["LeftDownTeeVector"]), (0x2962, ["lHar"]), (0x2963, ["uHar"]),
    (0x2964, ["rHar"]), (0x2965, ["dHar"]), (0x2966, ["luruhar"]), (0x2967, ["ldrdhar"]),
    (0x2968, ["ruluhar"]), (0x2969, ["rdldhar"]), (0x296a, ["lharul"]), (0x296b, ["llhard"]),
    (0x296c, ["rharul"]), (0x296d, ["lrhard"]), (0x296e, ["udhar", "UpEquilibrium"]),
    (0x296f, ["duhar", "ReverseUpEquilibrium"]), (0x2970, ["RoundImplies"]), (0x2971, ["erarr"]),
    (0x2972, ["simrarr"]), (0x2973, ["larrsim"]), (0x2974, ["rarrsim"]), (0x2975, ["rarrap"]),
    (0x2976, ["ltlarr"]), (0x2978, ["gtrarr"]), (0x2979, ["subrarr"]), (0x297b, ["suplarr"]),
    (0x297c, ["lfisht"]), (0x297d, ["rfisht"]), (0x297e, ["ufisht"]), (0x297f, ["dfisht"]),
    (0x2985, ["lopar"]), (0x2986, ["ropar"]), (0x298b, ["lbrke"]), (0x298c, ["rbrke"]), (0x298d, ["lbrkslu"]),
    (0x298e, ["rbrksld"]), (0x298f, ["lbrksld"]), (0x2990, ["rbrkslu"]), (0x2991, ["langd"]),
    (0x2992, ["rangd"]), (0x2993, ["lparlt"]), (0x2994, ["rpargt"]), (0x2995, ["gtlPar"]),
    (0x2996, ["ltrPar"]), (0x299a, ["vzigzag"]), (0x299c, ["vangrt"]), (0x299d, ["angrtvbd"]),
    (0x29a4, ["ange"]), (0x29a5, ["range"]), (0x29a6, ["dwangle"]), (0x29a7, ["uwangle"]),
    (0x29a8, ["angmsdaa"]), (0x29a9, ["angmsdab"]), (0x29aa, ["angmsdac"]), (0x29ab, ["angmsdad"]),
    (0x29ac, ["angmsdae"]), (0x29ad, ["angmsdaf"]), (0x29ae, ["angmsdag"]), (0x29af, ["angmsdah"]),
    (0x29b0, ["bemptyv"]), (0x29b1, ["demptyv"]), (0x29b2, ["cemptyv"]), (0x29b3, ["raemptyv"]),
    (0x29b4, ["laemptyv"]), (0x29b5, ["ohbar"]), (0x29b6, ["omid"]), (0x29b7, ["opar"]), (0x29b9, ["operp"]),
    (0x29bb, ["olcross"]), (0x29bc, ["odsold"]), (0x29be, ["olcir"]), (0x29bf, ["ofcir"]), (0x29c0, ["olt"]),
    (0x29c1, ["ogt"]), (0x29c2, ["cirscir"]), (0x29c3, ["cirE"]), (0x29c4, ["solb"]), (0x29c5, ["bsolb"]),
    (0x29c9, ["boxbox"]), (0x29cd, ["trisb"]), (0x29ce, ["rtriltri"]), (0x29cf, ["LeftTriangleBar"]),
    (0x29d0, ["RightTriangleBar"]), (0x29da, ["race"]), (0x29dc, ["iinfin"]), (0x29dd, ["infintie"]),
    (0x29de, ["nvinfin"]), (0x29e3, ["eparsl"]), (0x29e4, ["smeparsl"]), (0x29e5, ["eqvparsl"]),
    (0x29eb, ["lozf", "blacklozenge"]), (0x29f4, ["RuleDelayed"]), (0x29f6, ["dsol"]),
    (0x2a00, ["xodot", "bigodot"]), (0x2a01, ["xoplus", "bigoplus"]), (0x2a02, ["xotime", "bigotimes"]),
    (0x2a04, ["xuplus", "biguplus"]), (0x2a06, ["xsqcup", "bigsqcup"]), (0x2a0c, ["qint", "iiiint"]),
    (0x2a0d, ["fpartint"]), (0x2a10, ["cirfnint"]), (0x2a11, ["awint"]), (0x2a12, ["rppolint"]),
    (0x2a13, ["scpolint"]), (0x2a14, ["npolint"]), (0x2a15, ["pointint"]), (0x2a16, ["quatint"]),
    (0x2a17, ["intlarhk"]), (0x2a22, ["pluscir"]), (0x2a23, ["plusacir"]), (0x2a24, ["simplus"]),
    (0x2a25, ["plusdu"]), (0x2a26, ["plussim"]), (0x2a27, ["plustwo"]), (0x2a29, ["mcomma"]),
    (0x2a2a, ["minusdu"]), (0x2a2d, ["loplus"]), (0x2a2e, ["roplus"]), (0x2a2f, ["Cross"]),
    (0x2a30, ["timesd"]), (0x2a31, ["timesbar"]), (0x2a33, ["smashp"]), (0x2a34, ["lotimes"]),
    (0x2a35, ["rotimes"]), (0x2a36, ["otimesas"]), (0x2a37, ["Otimes"]), (0x2a38, ["odiv"]),
    (0x2a39, ["triplus"]), (0x2a3a, ["triminus"]), (0x2a3b, ["tritime"]), (0x2a3c, ["iprod", "intprod"]),
    (0x2a3f, ["amalg"]), (0x2a40, ["capdot"]), (0x2a42, ["ncup"]), (0x2a43, ["ncap"]), (0x2a44, ["capand"]),
    (0x2a45, ["cupor"]), (0x2a46, ["cupcap"]), (0x2a47, ["capcup"]), (0x2a48, ["cupbrcap"]),
    (0x2a49, ["capbrcup"]), (0x2a4a, ["cupcup"]), (0x2a4b, ["capcap"]), (0x2a4c, ["ccups"]),
    (0x2a4d, ["ccaps"]), (0x2a50, ["ccupssm"]), (0x2a53, ["And"]), (0x2a54, ["Or"]), (0x2a55, ["andand"]),
    (0x2a56, ["oror"]), (0x2a57, ["orslope"]), (0x2a58, ["andslope"]), (0x2a5a, ["andv"]), (0x2a5b, ["orv"]),
    (0x2a5c, ["andd"]), (0x2a5d, ["ord"]), (0x2a5f, ["wedbar"]), (0x2a66, ["sdote"]), (0x2a6a, ["simdot"]),
    (0x2a6d, ["congdot"]), (0x2a6e, ["easter"]), (0x2a6f, ["apacir"]), (0x2a70, ["apE"]), (0x2a71, ["eplus"]),
    (0x2a72, ["pluse"]), (0x2a73, ["Esim"]), (0x2a74, ["Colone"]), (0x2a75, ["Equal"]),
    (0x2a77, ["eDDot", "ddotseq"]), (0x2a78, ["equivDD"]), (0x2a79, ["ltcir"]), (0x2a7a, ["gtcir"]),
    (0x2a7b, ["ltquest"]), (0x2a7c, ["gtquest"]), (0x2a7d, ["les", "leqslant", "LessSlantEqual"]),
    (0x2a7e, ["ges", "geqslant", "GreaterSlantEqual"]), (0x2a7f, ["lesdot"]), (0x2a80, ["gesdot"]),
    (0x2a81, ["lesdoto"]), (0x2a82, ["gesdoto"]), (0x2a83, ["lesdotor"]), (0x2a84, ["gesdotol"]),
    (0x2a85, ["lap", "lessapprox"]), (0x2a86, ["gap", "gtrapprox"]), (0x2a87, ["lne", "lneq"]),
    (0x2a88, ["gne", "gneq"]), (0x2a89, ["lnap", "lnapprox"]), (0x2a8a, ["gnap", "gnapprox"]),
    (0x2a8b, ["lEg", "lesseqqgtr"]), (0x2a8c, ["gEl", "gtreqqless"]), (0x2a8d, ["lsime"]),
    (0x2a8e, ["gsime"]), (0x2a8f, ["lsimg"]), (0x2a90, ["gsiml"]), (0x2a91, ["lgE"]), (0x2a92, ["glE"]),
    (0x2a93, ["lesges"]), (0x2a94, ["gesles"]), (0x2a95, ["els", "eqslantless"]),
    (0x2a96, ["egs", "eqslantgtr"]), (0x2a97, ["elsdot"]), (0x2a98, ["egsdot"]), (0x2a99, ["el"]),
    (0x2a9a, ["eg"]), (0x2a9d, ["siml"]), (0x2a9e, ["simg"]), (0x2a9f, ["simlE"]), (0x2aa0, ["simgE"]),
    (0x2aa1, ["LessLess"]), (0x2aa2, ["GreaterGreater"]), (0x2aa4, ["glj"]), (0x2aa5, ["gla"]),
    (0x2aa6, ["ltcc"]), (0x2aa7, ["gtcc"]), (0x2aa8, ["lescc"]), (0x2aa9, ["gescc"]), (0x2aaa, ["smt"]),
    (0x2aab, ["lat"]), (0x2aac, ["smte"]), (0x2aad, ["late"]), (0x2aae, ["bumpE"]),
    (0x2aaf, ["pre", "preceq", "PrecedesEqual"]), (0x2ab0, ["sce", "succeq", "SucceedsEqual"]),
    (0x2ab3, ["prE"]), (0x2ab4, ["scE"]), (0x2ab5, ["prnE", "precneqq"]), (0x2ab6, ["scnE", "succneqq"]),
    (0x2ab7, ["prap", "precapprox"]), (0x2ab8, ["scap", "succapprox"]), (0x2ab9, ["prnap", "precnapprox"]),
    (0x2aba, ["scnap", "succnapprox"]), (0x2abb, ["Pr"]), (0x2abc, ["Sc"]), (0x2abd, ["subdot"]),
    (0x2abe, ["supdot"]), (0x2abf, ["subplus"]), (0x2ac0, ["supplus"]), (0x2ac1, ["submult"]),
    (0x2ac2, ["supmult"]), (0x2ac3, ["subedot"]), (0x2ac4, ["supedot"]), (0x2ac5, ["subE", "subseteqq"]),
    (0x2ac6, ["supE", "supseteqq"]), (0x2ac7, ["subsim"]), (0x2ac8, ["supsim"]),
    (0x2acb, ["subnE", "subsetneqq"]), (0x2acc, ["supnE", "supsetneqq"]), (0x2acf, ["csub"]),
    (0x2ad0, ["csup"]), (0x2ad1, ["csube"]), (0x2ad2, ["csupe"]), (0x2ad3, ["subsup"]), (0x2ad4, ["supsub"]),
    (0x2ad5, ["subsub"]), (0x2ad6, ["supsup"]), (0x2ad7, ["suphsub"]), (0x2ad8, ["supdsub"]),
    (0x2ad9, ["forkv"]), (0x2ada, ["topfork"]), (0x2adb, ["mlcp"]), (0x2ae4, ["Dashv", "DoubleLeftTee"]),
    (0x2ae6, ["Vdashl"]), (0x2ae7, ["Barv"]), (0x2ae8, ["vBar"]), (0x2ae9, ["vBarv"]), (0x2aeb, ["Vbar"]),
    (0x2aec, ["Not"]), (0x2aed, ["bNot"]), (0x2aee, ["rnmid"]), (0x2aef, ["cirmid"]), (0x2af0, ["midcir"]),
    (0x2af1, ["topcir"]), (0x2af2, ["nhpar"]), (0x2af3, ["parsim"]), (0x2afd, ["parsl"]), (0xfb00, ["fflig"]),
    (0xfb01, ["filig"]), (0xfb02, ["fllig"]), (0xfb03, ["ffilig"]), (0xfb04, ["ffllig"])]

end StyledCode.Reference.Names
