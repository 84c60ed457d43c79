/-!
Blank characters and trimming. A character is blank when it has the White_Space
property; a text is blank when all its characters are. Control characters such
as U+001C and the zero-width U+200B and U+FEFF do not have the property.
-/

namespace BookingDesk.Text

/-- The characters with the White_Space property. -/
def isBlank (c : Char) : Bool :=
  let n := c.toNat
  (0x9 ≤ n && n ≤ 0xD) || n == 0x20 || n == 0x85 || n == 0xA0 || n == 0x1680 ||
    (0x2000 ≤ n && n ≤ 0x200A) || n == 0x2028 || n == 0x2029 || n == 0x202F ||
    n == 0x205F || n == 0x3000

def allBlank (s : String) : Bool :=
  s.toList.all isBlank

def trimEndList (cs : List Char) : List Char :=
  (cs.reverse.dropWhile isBlank).reverse

def trimList (cs : List Char) : List Char :=
  trimEndList (cs.dropWhile isBlank)

def trim (s : String) : String :=
  String.ofList (trimList s.toList)

theorem dropBlanks_eq_nil_iff (cs : List Char) :
    cs.dropWhile isBlank = [] ↔ cs.all isBlank = true := by
  induction cs with
  | nil => simp
  | cons c cs ih =>
    rw [List.dropWhile_cons, List.all_cons]
    by_cases blank : isBlank c = true
    · rw [if_pos blank, blank, Bool.true_and]
      exact ih
    · rw [if_neg blank]
      simp [blank]

theorem trimEndList_eq_nil_iff (cs : List Char) :
    trimEndList cs = [] ↔ cs.all isBlank = true := by
  rw [trimEndList, List.reverse_eq_nil_iff, dropBlanks_eq_nil_iff, List.all_reverse]

theorem all_dropBlanks (cs : List Char) :
    (cs.dropWhile isBlank).all isBlank = cs.all isBlank := by
  induction cs with
  | nil => rfl
  | cons c cs ih =>
    by_cases blank : isBlank c = true
    · simpa [blank] using ih
    · simp [blank]

theorem trimList_eq_nil_iff (cs : List Char) :
    trimList cs = [] ↔ cs.all isBlank = true := by
  rw [trimList, trimEndList_eq_nil_iff, all_dropBlanks]

theorem trim_eq_empty_iff (s : String) : trim s = "" ↔ allBlank s = true := by
  rw [allBlank, ← trimList_eq_nil_iff, trim]
  constructor
  · intro h
    simpa using congrArg String.toList h
  · intro h
    rw [h]

end BookingDesk.Text
