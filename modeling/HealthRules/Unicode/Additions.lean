import HealthRules.Unicode.CharSet

/-!
# Additions — what edition 17.0 adds to the tables

Patterns answer by the properties of edition 16.0, which all other tables hold. The names of groups and the
texts shown for inspection follow edition 17.0: its properties are those of 16.0 and the additions that
this file holds in packed form (`CharSet.unpack`).

* `Additions.assigned`, all code points that 17.0 assigned;
* `Additions.letters`, `Additions.numbers` and `Additions.joining`, those with a property of interest.
-/

namespace HealthRules.Additions

/-- The code points that edition 17.0 assigned. All of them are visible. -/
def assigned : CharSet := CharSet.unpack
  "1ov r0 3j 2r6.e 2.b 15h 250 ojb.1 2 1 s gk1.f cd.1 1i.6 29d.p 12j.2 8.8 x.1 2g4.7 g8.17 4.9
  fxy.o 2.o 7y.4 4qp.7 zt.l 2p.36 cg7.2 cd.m f.g 4pb.u 1.l 8.1 34o 4e.3 9h.8 aj.3 1e 3 1l 4 s
  4 7e 10zj.5 4ma.b gsi.3bd"

/-- Those of them that are alphabetic. -/
def letters : CharSet := CharSet.unpack
  "1ov r0 3j ult.1 2 1 s j7y.p 12j.2 1e.1 2g4.7 g8.17 fyc.o 2.o 7y.4 4qp.7 zt.l 2p.36 hjh.u 1.l
  8.1 154q.5 4ma.b gsi.3bd"

/-- Those of them that are numbers. -/
def numbers : CharSet := CharSet.unpack "1kgw.9 g7e.2"

/-- Those of them that join the character before them. -/
def joining : CharSet := CharSet.unpack "5an.e 2.b 1c7i.1 2g4 1.2 1 1470 2 7.1 5"

end HealthRules.Additions
