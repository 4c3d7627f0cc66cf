/-! # Blank texts

A text is blank when it holds nothing but white space. White space is the Unicode property of that
name together with the four information separators U+001C to U+001F; it leaves out the zero-width
characters.
-/

namespace TensorShape.Text

def isBlankChar (c : Char) : Bool :=
  let n := c.toNat
  (0x09 ≤ n && n ≤ 0x0D) || (0x1C ≤ n && n ≤ 0x20) || n == 0x85 || n == 0xA0 || n == 0x1680 ||
    (0x2000 ≤ n && n ≤ 0x200A) || n == 0x2028 || n == 0x2029 || n == 0x202F || n == 0x205F ||
    n == 0x3000

/-- Every character of the text is white space; in particular the empty text is blank. -/
def isBlank (s : String) : Bool :=
  s.toList.all isBlankChar

theorem isBlank_eq_false_of_mem {s : String} {c : Char} (hc : c ∈ s.toList)
    (hb : isBlankChar c = false) : isBlank s = false := by
  simp only [isBlank, List.all_eq_false]
  exact ⟨c, hc, by simp [hb]⟩

theorem isBlank_ofList_cons {c : Char} {cs : List Char} (hb : isBlankChar c = false) :
    isBlank (String.ofList (c :: cs)) = false :=
  isBlank_eq_false_of_mem (by rw [String.toList_ofList]; exact List.mem_cons_self) hb

end TensorShape.Text
