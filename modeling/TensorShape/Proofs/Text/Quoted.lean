import Mathlib.Algebra.Group.Nat.Defs
import Mathlib.Data.List.Basic
import TensorShape.Text.Quoted

/-! # Quoted texts end where they end

A way of writing is delimited if a text that starts with something written tells what it is and
where it ends. Single characters are delimited inside quotes, whether they stand for themselves or
are escaped, and none of them starts with the quote. Hence a quoted text ends at its second quote,
and what is quoted can be told from it.
-/

namespace TensorShape.Text

/-- Where something that has the property is written and an admitted text follows, both can be told
from the whole. -/
def Delimited {α : Type} (P : α → Prop) (follows : List Char → Prop) (write : α → List Char) :
    Prop :=
  ∀ ⦃a b : α⦄ ⦃r s : List Char⦄, P a → P b → follows r → follows s →
    write a ++ r = write b ++ s → a = b ∧ r = s

namespace Delimited

variable {α β : Type} {P : α → Prop} {follows : List Char → Prop} {write : α → List Char} {a b : α}

theorem comp (h : Delimited P follows write) {Q : β → Prop} {f : β → α} (hf : ∀ x, Q x → P (f x))
    (hinj : ∀ x y, Q x → Q y → f x = f y → x = y) : Delimited Q follows fun x => write (f x) := by
  intro x y r s hx hy hr hs heq
  obtain ⟨hxy, hrest⟩ := h (hf x hx) (hf y hy) hr hs heq
  exact ⟨hinj x y hx hy hxy, hrest⟩

theorem ofList_append_inj (h : Delimited P follows write) (ha : P a) (hb : P b) {t u : String}
    (ht : follows t.toList) (hu : follows u.toList) :
    String.ofList (write a) ++ t = String.ofList (write b) ++ u ↔ a = b ∧ t = u := by
  constructor
  · intro heq
    have hchars := congrArg String.toList heq
    rw [String.toList_append, String.toList_append, String.toList_ofList,
      String.toList_ofList] at hchars
    obtain ⟨hab, htu⟩ := h ha hb ht hu hchars
    exact ⟨hab, String.toList_inj.mp htu⟩
  · rintro ⟨rfl, rfl⟩
    rfl

theorem ofList_inj (h : Delimited P follows write) (ha : P a) (hb : P b) (hnil : follows []) :
    String.ofList (write a) = String.ofList (write b) ↔ a = b := by
  constructor
  · intro heq
    exact (h ha hb hnil hnil (congrArg (· ++ []) (String.ofList_injective heq))).1
  · rintro rfl
    rfl

end Delimited

section Digits

theorem hexDigit_injective : ∀ m < 16, ∀ n < 16, hexDigit m = hexDigit n → m = n := by decide

theorem length_hexDigits (width n : ℕ) : (hexDigits width n).length = width := by
  induction width generalizing n with
  | zero => rfl
  | succ width ih => rw [hexDigits, List.length_append, ih, List.length_singleton]

theorem hexDigits_injective {width m n : ℕ} (hm : m < 16 ^ width) (hn : n < 16 ^ width)
    (h : hexDigits width m = hexDigits width n) : m = n := by
  induction width generalizing m n with
  | zero => omega
  | succ width ih =>
    rw [Nat.pow_succ] at hm hn
    obtain ⟨hhigh, hlow⟩ := List.append_inj' h rfl
    have hdiv : m / 16 = n / 16 := ih (by omega) (by omega) hhigh
    have hmod : m % 16 = n % 16 :=
      hexDigit_injective _ (Nat.mod_lt _ (by decide)) _ (Nat.mod_lt _ (by decide))
        (List.singleton_inj.mp hlow)
    omega

end Digits

/-- The letters that stand after a backslash for one character. -/
def shortEscapes (quote : Char) : List (Char × Char) :=
  [(quote, quote), ('\\', '\\'), ('t', '\t'), ('n', '\n'), ('r', '\r')]

/-- The letters that stand after a backslash before a code point, with the number of its digits. -/
def longEscapes : List (Char × ℕ) := [('x', 2), ('u', 4), ('U', 8)]

def quotes : List Char := ['\'', '"']

/-- How a character can be written inside the quotes. -/
inductive Escaped (quote c : Char) : List Char → Prop
  | plain : c ≠ quote → c ≠ '\\' → Escaped quote c [c]
  | short {letter : Char} : (letter, c) ∈ shortEscapes quote → Escaped quote c ['\\', letter]
  | long {letter : Char} {width : ℕ} : (letter, width) ∈ longEscapes → c.toNat < 16 ^ width →
    Escaped quote c ('\\' :: letter :: hexDigits width c.toNat)

section Characters

variable {quote c d : Char} {v w r s : List Char}

theorem escaped_escapeCode (quote c : Char) : Escaped quote c (escapeCode c.toNat) := by
  have hbound : c.toNat < 0x110000 := by
    have hvalid := c.valid
    simp only [UInt32.isValidChar, Nat.isValidChar] at hvalid
    rw [Char.toNat]
    omega
  unfold escapeCode
  split
  · exact .long (by simp [longEscapes]) (by omega)
  · split
    · exact .long (by simp [longEscapes]) (by omega)
    · exact .long (by simp [longEscapes]) (by omega)

theorem escaped_escapeChar (quote c : Char) : Escaped quote c (escapeChar quote c) := by
  unfold escapeChar
  split
  · rename_i h
    refine .short ?_
    rcases h with rfl | rfl <;> simp [shortEscapes]
  · rename_i h
    rw [not_or] at h
    split
    · exact .short (by simp_all [shortEscapes])
    · split
      · exact .short (by simp_all [shortEscapes])
      · split
        · exact .short (by simp_all [shortEscapes])
        · split
          · exact .plain h.1 h.2
          · exact escaped_escapeCode quote c

theorem quoteFor_mem_quotes (cs : List Char) : quoteFor cs ∈ quotes := by
  unfold quoteFor
  split <;> decide

theorem eq_of_shortEscapes (hquote : quote ∈ quotes) {letter : Char}
    (hc : (letter, c) ∈ shortEscapes quote) (hd : (letter, d) ∈ shortEscapes quote) : c = d := by
  have hunique : ∀ quote ∈ quotes, ∀ e ∈ shortEscapes quote, ∀ e' ∈ shortEscapes quote,
      e.1 = e'.1 → e.2 = e'.2 := by simp [quotes, shortEscapes]
  exact hunique quote hquote _ hc _ hd rfl

theorem not_mem_longEscapes (hquote : quote ∈ quotes) {letter : Char} {width : ℕ}
    (hc : (letter, c) ∈ shortEscapes quote) : (letter, width) ∉ longEscapes := by
  have hdisjoint : ∀ quote ∈ quotes, ∀ e ∈ shortEscapes quote, ∀ e' ∈ longEscapes,
      e.1 ≠ e'.1 := by simp [quotes, shortEscapes, longEscapes]
  exact fun hlong => hdisjoint quote hquote _ hc _ hlong rfl

theorem width_unique {letter : Char} {m n : ℕ} (hm : (letter, m) ∈ longEscapes)
    (hn : (letter, n) ∈ longEscapes) : m = n := by
  have hunique : ∀ e ∈ longEscapes, ∀ e' ∈ longEscapes, e.1 = e'.1 → e.2 = e'.2 := by decide
  exact hunique _ hm _ hn rfl

namespace Escaped

theorem exists_cons (h : Escaped quote c w) (hquote : quote ∈ quotes) :
    ∃ first rest, w = first :: rest ∧ first ≠ quote := by
  have hslash : '\\' ≠ quote := by
    rintro rfl
    exact absurd hquote (by decide)
  cases h with
  | plain hne _ => exact ⟨_, _, rfl, hne⟩
  | short _ => exact ⟨_, _, rfl, hslash⟩
  | long _ _ => exact ⟨_, _, rfl, hslash⟩

theorem eq_of_append_eq (hc : Escaped quote c v) (hd : Escaped quote d w)
    (hquote : quote ∈ quotes) (h : v ++ r = w ++ s) : c = d ∧ r = s := by
  -- The first character tells whether there is an escape, and the second one which.
  cases hc with
  | plain _ hslash =>
    cases hd with
    | plain _ _ => exact List.cons.inj h
    | short _ => exact absurd (List.cons.inj h).1 hslash
    | long _ _ => exact absurd (List.cons.inj h).1 hslash
  | short hshort =>
    cases hd with
    | plain _ hslash => exact absurd (List.cons.inj h).1.symm hslash
    | short hshort' =>
      obtain ⟨rfl, hrest⟩ := List.cons.inj (List.cons.inj h).2
      exact ⟨eq_of_shortEscapes hquote hshort hshort', hrest⟩
    | long hlong _ =>
      obtain ⟨rfl, -⟩ := List.cons.inj (List.cons.inj h).2
      exact absurd hlong (not_mem_longEscapes hquote hshort)
  | long hlong hfits =>
    cases hd with
    | plain _ hslash => exact absurd (List.cons.inj h).1.symm hslash
    | short hshort =>
      obtain ⟨rfl, -⟩ := List.cons.inj (List.cons.inj h).2
      exact absurd hlong (not_mem_longEscapes hquote hshort)
    | long hlong' hfits' =>
      obtain ⟨rfl, hdigits⟩ := List.cons.inj (List.cons.inj h).2
      obtain rfl := width_unique hlong hlong'
      obtain ⟨hcode, hrest⟩ := List.append_inj hdigits (by rw [length_hexDigits, length_hexDigits])
      exact ⟨Char.toNat_inj.mp (hexDigits_injective hfits hfits' hcode), hrest⟩

end Escaped

theorem flatMap_escapeChar_append_inj (hquote : quote ∈ quotes) {cs ds : List Char}
    (h : cs.flatMap (escapeChar quote) ++ quote :: r =
      ds.flatMap (escapeChar quote) ++ quote :: s) :
    cs = ds ∧ r = s := by
  induction cs generalizing ds with
  | nil =>
    cases ds with
    | nil => exact ⟨rfl, (List.cons.inj h).2⟩
    | cons d ds =>
      obtain ⟨first, rest, hd, hne⟩ := (escaped_escapeChar quote d).exists_cons hquote
      rw [List.flatMap_cons, hd] at h
      exact absurd (List.cons.inj h).1.symm hne
  | cons c cs ih =>
    cases ds with
    | nil =>
      obtain ⟨first, rest, hc, hne⟩ := (escaped_escapeChar quote c).exists_cons hquote
      rw [List.flatMap_cons, hc] at h
      exact absurd (List.cons.inj h).1 hne
    | cons d ds =>
      rw [List.flatMap_cons, List.flatMap_cons, List.append_assoc, List.append_assoc] at h
      obtain ⟨rfl, hrest⟩ := (escaped_escapeChar quote c).eq_of_append_eq
        (escaped_escapeChar quote d) hquote h
      obtain ⟨rfl, hend⟩ := ih hrest
      exact ⟨rfl, hend⟩

/-- A quoted text tells the text and where it ends, whatever follows. -/
theorem delimited_quoted : Delimited (fun _ => True) (fun _ => True) quoted := by
  intro cs ds r s _ _ _ _ h
  rw [quoted, quoted, List.cons_append, List.cons_append, List.append_assoc,
    List.append_assoc] at h
  obtain ⟨hquote, h⟩ := List.cons.inj h
  rw [← hquote] at h
  exact flatMap_escapeChar_append_inj (quoteFor_mem_quotes cs) h

end Characters

end TensorShape.Text
