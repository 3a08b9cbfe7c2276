/-!
# Named references: Technical symbols and shapes

* `shapes` : character codes in ascending order, each with the names that stand for it, for
  technical symbols, box drawing, shapes, dingbats, and the short blocks of brackets and arrows after them
-/

namespace StyledCode.Reference.Names

/-- Codes and names for technical symbols, box drawing, shapes, dingbats, and the short blocks of brackets and arrows
after them. -/
def shapes : List (Nat × List String) :=
  [(0x2305, ["barwed", "barwedge"]), (0x2306, ["Barwed", "doublebarwedge"]),
    (0x2308, ["lceil", "LeftCeiling"]), (0x2309, ["rceil", "RightCeiling"]),
    (0x230a, ["lfloor", "LeftFloor"]), (0x230b, ["rfloor", "RightFloor"]), (0x230c, ["drcrop"]),
    (0x230d, ["dlcrop"]), (0x230e, ["urcrop"]), (0x230f, ["ulcrop"]), (0x2310, ["bnot"]),
    (0x2312, ["profline"]), (0x2313, ["profsurf"]), (0x2315, ["telrec"]), (0x2316, ["target"]),
    (0x231c, ["ulcorn", "ulcorner"]), (0x231d, ["urcorn", "urcorner"]), (0x231e, ["dlcorn", "llcorner"]),
    (0x231f, ["drcorn", "lrcorner"]), (0x2322, ["frown", "sfrown"]), (0x2323, ["smile", "ssmile"]),
    (0x232d, ["cylcty"]), (0x232e, ["profalar"]), (0x2336, ["topbot"]), (0x233d, ["ovbar"]),
    (0x233f, ["solbar"]), (0x237c, ["angzarr"]), (0x23b0, ["lmoust", "lmoustache"]),
    (0x23b1, ["rmoust", "rmoustache"]), (0x23b4, ["tbrk", "OverBracket"]), (0x23b5, ["bbrk", "UnderBracket"]),
    (0x23b6, ["bbrktbrk"]), (0x23dc, ["OverParenthesis"]), (0x23dd, ["UnderParenthesis"]),
    (0x23de, ["OverBrace"]), (0x23df, ["UnderBrace"]), (0x23e2, ["trpezium"]), (0x23e7, ["elinters"]),
    (0x2423, ["blank"]), (0x24c8, ["oS", "circledS"]), (0x2500, ["boxh", "HorizontalLine"]),
    (0x2502, ["boxv"]), (0x250c, ["boxdr"]), (0x2510, ["boxdl"]), (0x2514, ["boxur"]), (0x2518, ["boxul"]),
    (0x251c, ["boxvr"]), (0x2524, ["boxvl"]), (0x252c, ["boxhd"]), (0x2534, ["boxhu"]), (0x253c, ["boxvh"]),
    (0x2550, ["boxH"]), (0x2551, ["boxV"]), (0x2552, ["boxdR"]), (0x2553, ["boxDr"]), (0x2554, ["boxDR"]),
    (0x2555, ["boxdL"]), (0x2556, ["boxDl"]), (0x2557, ["boxDL"]), (0x2558, ["boxuR"]), (0x2559, ["boxUr"]),
    (0x255a, ["boxUR"]), (0x255b, ["boxuL"]), (0x255c, ["boxUl"]), (0x255d, ["boxUL"]), (0x255e, ["boxvR"]),
    (0x255f, ["boxVr"]), (0x2560, ["boxVR"]), (0x2561, ["boxvL"]), (0x2562, ["boxVl"]), (0x2563, ["boxVL"]),
    (0x2564, ["boxHd"]), (0x2565, ["boxhD"]), (0x2566, ["boxHD"]), (0x2567, ["boxHu"]), (0x2568, ["boxhU"]),
    (0x2569, ["boxHU"]), (0x256a, ["boxvH"]), (0x256b, ["boxVh"]), (0x256c, ["boxVH"]), (0x2580, ["uhblk"]),
    (0x2584, ["lhblk"]), (0x2588, ["block"]), (0x2591, ["blk14"]), (0x2592, ["blk12"]), (0x2593, ["blk34"]),
    (0x25a1, ["squ", "Square", "square"]),
    (0x25aa, ["squf", "squarf", "blacksquare", "FilledVerySmallSquare"]), (0x25ab, ["EmptyVerySmallSquare"]),
    (0x25ad, ["rect"]), (0x25ae, ["marker"]), (0x25b1, ["fltns"]), (0x25b3, ["xutri", "bigtriangleup"]),
    (0x25b4, ["utrif", "blacktriangle"]), (0x25b5, ["utri", "triangle"]),
    (0x25b8, ["rtrif", "blacktriangleright"]), (0x25b9, ["rtri", "triangleright"]),
    (0x25bd, ["xdtri", "bigtriangledown"]), (0x25be, ["dtrif", "blacktriangledown"]),
    (0x25bf, ["dtri", "triangledown"]), (0x25c2, ["ltrif", "blacktriangleleft"]),
    (0x25c3, ["ltri", "triangleleft"]), (0x25ca, ["loz", "lozenge"]), (0x25cb, ["cir"]), (0x25ec, ["tridot"]),
    (0x25ef, ["xcirc", "bigcirc"]), (0x25f8, ["ultri"]), (0x25f9, ["urtri"]), (0x25fa, ["lltri"]),
    (0x25fb, ["EmptySmallSquare"]), (0x25fc, ["FilledSmallSquare"]), (0x2605, ["starf", "bigstar"]),
    (0x2606, ["star"]), (0x260e, ["phone"]), (0x2640, ["female"]), (0x2642, ["male"]),
    (0x2660, ["spades", "spadesuit"]), (0x2663, ["clubs", "clubsuit"]), (0x2665, ["hearts", "heartsuit"]),
    (0x2666, ["diams", "diamondsuit"]), (0x266a, ["sung"]), (0x266d, ["flat"]),
    (0x266e, ["natur", "natural"]), (0x266f, ["sharp"]), (0x2713, ["check", "checkmark"]),
    (0x2717, ["cross"]), (0x2720, ["malt", "maltese"]), (0x2736, ["sext"]), (0x2758, ["VerticalSeparator"]),
    (0x2772, ["lbbrk"]), (0x2773, ["rbbrk"]), (0x27e6, ["lobrk", "LeftDoubleBracket"]),
    (0x27e7, ["robrk", "RightDoubleBracket"]), (0x27e8, ["lang", "langle", "LeftAngleBracket"]),
    (0x27e9, ["rang", "rangle", "RightAngleBracket"]), (0x27ea, ["Lang"]), (0x27eb, ["Rang"]),
    (0x27ec, ["loang"]), (0x27ed, ["roang"]), (0x27f5, ["xlarr", "LongLeftArrow", "longleftarrow"]),
    (0x27f6, ["xrarr", "LongRightArrow", "longrightarrow"]),
    (0x27f7, ["xharr", "LongLeftRightArrow", "longleftrightarrow"]),
    (0x27f8, ["xlArr", "Longleftarrow", "DoubleLongLeftArrow"]),
    (0x27f9, ["xrArr", "Longrightarrow", "DoubleLongRightArrow"]),
    (0x27fa, ["xhArr", "Longleftrightarrow", "DoubleLongLeftRightArrow"]), (0x27fc, ["xmap", "longmapsto"]),
    (0x27ff, ["dzigrarr"])]

end StyledCode.Reference.Names
