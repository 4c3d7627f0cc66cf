import TensorShape.Proofs.Text.Quoted
import TensorShape.Text.Listing

/-! # Listings end where they end

A whole number in decimal digits is delimited where no digit follows. Items that are delimited
there, and that do not start as what may stand in their place does, can be told from a listing of
them in brackets or parentheses, and so can the end of the listing, whatever follows.
-/

namespace TensorShape.Text

def EndsNumber (r : List Char) : Prop := ∀ c ∈ r.head?, c.isDigit = false

theorem endsNumber_nil : EndsNumber [] := nofun

theorem endsNumber_cons {c : Char} {r : List Char} (h : c.isDigit = false) :
    EndsNumber (c :: r) := by
  rintro c' hc'
  obtain rfl := Option.mem_some_iff.mp hc'
  exact h

section Decimal

variable {m n : ℕ} {r s : List Char}

theorem takeWhile_isDigit_append (n : ℕ) (h : EndsNumber r) :
    (Nat.toDigits 10 n ++ r).takeWhile Char.isDigit = Nat.toDigits 10 n := by
  have hdigits : ∀ c ∈ Nat.toDigits 10 n, c.isDigit = true := fun c hc =>
    Nat.isDigit_of_mem_toDigits (by decide) (by decide) hc
  have hrest : r.takeWhile Char.isDigit = [] := by
    cases r with
    | nil => rfl
    | cons c r => rw [List.takeWhile_cons, h c rfl, if_neg Bool.false_ne_true]
  rw [List.takeWhile_append_of_pos hdigits, hrest, List.append_nil]

theorem toDigits_append_inj (hr : EndsNumber r) (hs : EndsNumber s)
    (h : Nat.toDigits 10 m ++ r = Nat.toDigits 10 n ++ s) : m = n ∧ r = s := by
  have hdigits := congrArg (List.takeWhile Char.isDigit) h
  rw [takeWhile_isDigit_append m hr, takeWhile_isDigit_append n hs] at hdigits
  refine ⟨?_, List.append_cancel_left (hdigits ▸ h)⟩
  rw [← Nat.ofDigitChars_ten_toDigits (n := m), hdigits, Nat.ofDigitChars_ten_toDigits]

theorem exists_toDigits_eq_cons (n : ℕ) :
    ∃ c cs, Nat.toDigits 10 n = c :: cs ∧ c.isDigit = true := by
  cases hdigits : Nat.toDigits 10 n with
  | nil => exact absurd hdigits Nat.toDigits_ne_nil
  | cons c cs =>
    exact ⟨c, cs, rfl, Nat.isDigit_of_mem_toDigits (by decide) (by decide)
      (hdigits ▸ List.mem_cons_self)⟩

theorem exists_decimal_eq_cons (i : Int) :
    ∃ c cs, decimal i = c :: cs ∧ (c = '-' ∨ c.isDigit = true) := by
  cases i with
  | ofNat n =>
    obtain ⟨c, cs, hn, hdigit⟩ := exists_toDigits_eq_cons n
    exact ⟨c, cs, hn, Or.inr hdigit⟩
  | negSucc n => exact ⟨_, _, rfl, Or.inl rfl⟩

theorem toDigits_append_ne_minus (n : ℕ) : Nat.toDigits 10 n ++ r ≠ '-' :: s := by
  intro h
  obtain ⟨c, cs, hn, hdigit⟩ := exists_toDigits_eq_cons n
  rw [hn] at h
  rw [(List.cons.inj h).1] at hdigit
  exact absurd hdigit (by decide)

theorem delimited_decimal : Delimited (fun _ => True) EndsNumber decimal := by
  intro i j r s _ _ hr hs h
  cases i with
  | ofNat m =>
    cases j with
    | ofNat n =>
      obtain ⟨rfl, hrest⟩ := toDigits_append_inj hr hs h
      exact ⟨rfl, hrest⟩
    | negSucc n => exact absurd h (toDigits_append_ne_minus m)
  | negSucc m =>
    cases j with
    | ofNat n => exact absurd h.symm (toDigits_append_ne_minus n)
    | negSucc n =>
      obtain ⟨hsucc, hrest⟩ := toDigits_append_inj hr hs (List.cons.inj h).2
      exact ⟨by rw [Nat.succ.inj hsucc], hrest⟩

end Decimal

/-- What stands after the last item of a listing. -/
inductive Terminates : List Char → Prop
  | bracket (r : List Char) : Terminates (']' :: r)
  | parenthesis (r : List Char) : Terminates (')' :: r)
  | afterSingle (r : List Char) : Terminates (',' :: ')' :: r)

/-- Things with the property can be listed: they are delimited where no digit follows, and none of
them starts as the end of a listing does. -/
structure Listed {α : Type} (P : α → Prop) (write : α → List Char) : Prop where
  delimited : Delimited P EndsNumber write
  exists_cons : ∀ a, P a → ∃ c cs, write a = c :: cs ∧ c ∉ [']', ')', ',']

section Listings

variable {α : Type} {P : α → Prop} {write : α → List Char} {xs ys : List α} {t u : List Char}

theorem Terminates.endsNumber (h : Terminates t) : EndsNumber t := by
  cases h <;> exact endsNumber_cons rfl

theorem Terminates.exists_cons (h : Terminates t) : ∃ c cs, t = c :: cs ∧ c ∈ [']', ')', ','] := by
  cases h <;> exact ⟨_, _, rfl, by decide⟩

theorem Terminates.ne_comma_blank (h : Terminates t) : t ≠ ',' :: ' ' :: u := by
  rintro rfl
  cases h

def afterItem (items : List (List Char)) (t : List Char) : List Char :=
  match items with
  | [] => t
  | items => ',' :: ' ' :: (commaSeparated items ++ t)

theorem commaSeparated_cons_append (item : List Char) (items : List (List Char)) (t : List Char) :
    commaSeparated (item :: items) ++ t = item ++ afterItem items t := by
  cases items with
  | nil => rfl
  | cons next rest => simp [commaSeparated, afterItem]

theorem endsNumber_afterItem (items : List (List Char)) (h : Terminates t) :
    EndsNumber (afterItem items t) := by
  cases items with
  | nil => exact h.endsNumber
  | cons item items => exact endsNumber_cons rfl

namespace Listed

theorem append_ne_of_terminates (hlisted : Listed P write) {a : α} (ha : P a)
    (h : Terminates t) : write a ++ u ≠ t := by
  rintro rfl
  obtain ⟨c, cs, hc, hnot⟩ := hlisted.exists_cons a ha
  obtain ⟨c', cs', hc', hmem⟩ := h.exists_cons
  rw [hc] at hc'
  exact hnot ((List.cons.inj hc').1 ▸ hmem)

theorem commaSeparated_append_inj (hlisted : Listed P write) (hxs : ∀ x ∈ xs, P x)
    (hys : ∀ y ∈ ys, P y) (ht : Terminates t) (hu : Terminates u)
    (h : commaSeparated (xs.map write) ++ t = commaSeparated (ys.map write) ++ u) :
    xs = ys ∧ t = u := by
  induction xs generalizing ys with
  | nil =>
    cases ys with
    | nil => exact ⟨rfl, h⟩
    | cons y ys =>
      rw [List.map_cons, commaSeparated_cons_append] at h
      exact absurd h.symm (hlisted.append_ne_of_terminates (hys y List.mem_cons_self) ht)
  | cons x xs ih =>
    rw [List.forall_mem_cons] at hxs
    rw [List.map_cons, commaSeparated_cons_append] at h
    cases ys with
    | nil => exact absurd h (hlisted.append_ne_of_terminates hxs.1 hu)
    | cons y ys =>
      rw [List.forall_mem_cons] at hys
      rw [List.map_cons, commaSeparated_cons_append] at h
      obtain ⟨rfl, hafter⟩ := hlisted.delimited hxs.1 hys.1 (endsNumber_afterItem _ ht)
        (endsNumber_afterItem _ hu) h
      -- Either both listings go on with a comma and a blank, or both end here.
      cases xs with
      | nil =>
        cases ys with
        | nil => exact ⟨rfl, hafter⟩
        | cons y ys => exact absurd hafter ht.ne_comma_blank
      | cons x' xs =>
        cases ys with
        | nil => exact absurd hafter.symm hu.ne_comma_blank
        | cons y' ys =>
          obtain ⟨hrest, hend⟩ := ih hxs.2 hys.2 (List.cons.inj (List.cons.inj hafter).2).2
          exact ⟨congrArg (x :: ·) hrest, hend⟩

theorem delimited_bracketed (hlisted : Listed P write) :
    Delimited (fun xs => ∀ x ∈ xs, P x) (fun _ => True)
      fun xs : List α => bracketed (xs.map write) := by
  intro xs ys r s hxs hys _ _ h
  simp only [bracketed, List.cons_append, List.append_assoc, List.nil_append, List.cons.injEq,
    true_and] at h
  obtain ⟨rfl, hend⟩ := hlisted.commaSeparated_append_inj hxs hys (.bracket r) (.bracket s) h
  exact ⟨rfl, (List.cons.inj hend).2⟩

def closing : List (List Char) → List Char
  | [_] => [',', ')']
  | _ => [')']

theorem parenthesized_eq (items : List (List Char)) :
    parenthesized items = '(' :: (commaSeparated items ++ closing items) := by
  match items with
  | [] => rfl
  | [_] => rfl
  | _ :: _ :: _ => rfl

theorem terminates_closing (items : List (List Char)) (r : List Char) :
    Terminates (closing items ++ r) := by
  unfold closing
  split
  · exact .afterSingle r
  · exact .parenthesis r

theorem delimited_parenthesized (hlisted : Listed P write) :
    Delimited (fun xs => ∀ x ∈ xs, P x) (fun _ => True)
      fun xs : List α => parenthesized (xs.map write) := by
  intro xs ys r s hxs hys _ _ h
  simp only [parenthesized_eq, List.cons_append, List.append_assoc, List.cons.injEq, true_and] at h
  obtain ⟨rfl, hend⟩ := hlisted.commaSeparated_append_inj hxs hys (terminates_closing _ r)
    (terminates_closing _ s) h
  exact ⟨rfl, List.append_cancel_left hend⟩

end Listed

end Listings

end TensorShape.Text
