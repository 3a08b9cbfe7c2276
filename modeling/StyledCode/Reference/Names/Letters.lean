/-!
# Named references: Mathematical letters

* `letters` : character codes in ascending order, each with the names that stand for it, for
  the script, Fraktur and double-struck letters of mathematics
-/

namespace StyledCode.Reference.Names

/-- Codes and names for the script, Fraktur and double-struck letters of mathematics. -/
def letters : List (Nat × List String) :=
  [(0x1d49c, ["Ascr"]), (0x1d49e, ["Cscr"]), (0x1d49f, ["Dscr"]), (0x1d4a2, ["Gscr"]), (0x1d4a5, ["Jscr"]),
    (0x1d4a6, ["Kscr"]), (0x1d4a9, ["Nscr"]), (0x1d4aa, ["Oscr"]), (0x1d4ab, ["Pscr"]), (0x1d4ac, ["Qscr"]),
    (0x1d4ae, ["Sscr"]), (0x1d4af, ["Tscr"]), (0x1d4b0, ["Uscr"]), (0x1d4b1, ["Vscr"]), (0x1d4b2, ["Wscr"]),
    (0x1d4b3, ["Xscr"]), (0x1d4b4, ["Yscr"]), (0x1d4b5, ["Zscr"]), (0x1d4b6, ["ascr"]), (0x1d4b7, ["bscr"]),
    (0x1d4b8, ["cscr"]), (0x1d4b9, ["dscr"]), (0x1d4bb, ["fscr"]), (0x1d4bd, ["hscr"]), (0x1d4be, ["iscr"]),
    (0x1d4bf, ["jscr"]), (0x1d4c0, ["kscr"]), (0x1d4c1, ["lscr"]), (0x1d4c2, ["mscr"]), (0x1d4c3, ["nscr"]),
    (0x1d4c5, ["pscr"]), (0x1d4c6, ["qscr"]), (0x1d4c7, ["rscr"]), (0x1d4c8, ["sscr"]), (0x1d4c9, ["tscr"]),
    (0x1d4ca, ["uscr"]), (0x1d4cb, ["vscr"]), (0x1d4cc, ["wscr"]), (0x1d4cd, ["xscr"]), (0x1d4ce, ["yscr"]),
    (0x1d4cf, ["zscr"]), (0x1d504, ["Afr"]), (0x1d505, ["Bfr"]), (0x1d507, ["Dfr"]), (0x1d508, ["Efr"]),
    (0x1d509, ["Ffr"]), (0x1d50a, ["Gfr"]), (0x1d50d, ["Jfr"]), (0x1d50e, ["Kfr"]), (0x1d50f, ["Lfr"]),
    (0x1d510, ["Mfr"]), (0x1d511, ["Nfr"]), (0x1d512, ["Ofr"]), (0x1d513, ["Pfr"]), (0x1d514, ["Qfr"]),
    (0x1d516, ["Sfr"]), (0x1d517, ["Tfr"]), (0x1d518, ["Ufr"]), (0x1d519, ["Vfr"]), (0x1d51a, ["Wfr"]),
    (0x1d51b, ["Xfr"]), (0x1d51c, ["Yfr"]), (0x1d51e, ["afr"]), (0x1d51f, ["bfr"]), (0x1d520, ["cfr"]),
    (0x1d521, ["dfr"]), (0x1d522, ["efr"]), (0x1d523, ["ffr"]), (0x1d524, ["gfr"]), (0x1d525, ["hfr"]),
    (0x1d526, ["ifr"]), (0x1d527, ["jfr"]), (0x1d528, ["kfr"]), (0x1d529, ["lfr"]), (0x1d52a, ["mfr"]),
    (0x1d52b, ["nfr"]), (0x1d52c, ["ofr"]), (0x1d52d, ["pfr"]), (0x1d52e, ["qfr"]), (0x1d52f, ["rfr"]),
    (0x1d530, ["sfr"]), (0x1d531, ["tfr"]), (0x1d532, ["ufr"]), (0x1d533, ["vfr"]), (0x1d534, ["wfr"]),
    (0x1d535, ["xfr"]), (0x1d536, ["yfr"]), (0x1d537, ["zfr"]), (0x1d538, ["Aopf"]), (0x1d539, ["Bopf"]),
    (0x1d53b, ["Dopf"]), (0x1d53c, ["Eopf"]), (0x1d53d, ["Fopf"]), (0x1d53e, ["Gopf"]), (0x1d540, ["Iopf"]),
    (0x1d541, ["Jopf"]), (0x1d542, ["Kopf"]), (0x1d543, ["Lopf"]), (0x1d544, ["Mopf"]), (0x1d546, ["Oopf"]),
    (0x1d54a, ["Sopf"]), (0x1d54b, ["Topf"]), (0x1d54c, ["Uopf"]), (0x1d54d, ["Vopf"]), (0x1d54e, ["Wopf"]),
    (0x1d54f, ["Xopf"]), (0x1d550, ["Yopf"]), (0x1d552, ["aopf"]), (0x1d553, ["bopf"]), (0x1d554, ["copf"]),
    (0x1d555, ["dopf"]), (0x1d556, ["eopf"]), (0x1d557, ["fopf"]), (0x1d558, ["gopf"]), (0x1d559, ["hopf"]),
    (0x1d55a, ["iopf"]), (0x1d55b, ["jopf"]), (0x1d55c, ["kopf"]), (0x1d55d, ["lopf"]), (0x1d55e, ["mopf"]),
    (0x1d55f, ["nopf"]), (0x1d560, ["oopf"]), (0x1d561, ["popf"]), (0x1d562, ["qopf"]), (0x1d563, ["ropf"]),
    (0x1d564, ["sopf"]), (0x1d565, ["topf"]), (0x1d566, ["uopf"]), (0x1d567, ["vopf"]), (0x1d568, ["wopf"]),
    (0x1d569, ["xopf"]), (0x1d56a, ["yopf"]), (0x1d56b, ["zopf"])]

end StyledCode.Reference.Names
