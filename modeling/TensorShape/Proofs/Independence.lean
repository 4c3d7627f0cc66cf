import TensorShape.Proofs.Attachment

/-! # Dimensions and names do not influence each other

Two successful calls that differ in their names alone answer the same dimensions, and two successful
calls that differ in their sizes alone, but not in their ranks, answer the same names. So no answer
tells anything about names through its dimensions, or about sizes through its names, not even where
one of the two broadcasts takes the shortcut for equal operands.
-/

namespace TensorShape

variable {σ ν ρ : Type}

/-- Where two calls of the operation succeed, the dimensions of their answers depend on the sizes
alone, and the names on the given names and the ranks alone. -/
structure Independent (rank : σ → ρ) (op : σ → ν → Outcome NamedShape) : Prop where
  dims_eq : ∀ sizes given given' {r r'}, (op sizes given).result = .ok r →
    (op sizes given').result = .ok r' → r.dims = r'.dims
  names_eq : ∀ sizes sizes' given {r r'}, rank sizes = rank sizes' →
    (op sizes given).result = .ok r → (op sizes' given).result = .ok r' → r.names = r'.names

theorem GivenNames.read_congr {dims dims' : Shape} (names : GivenNames)
    (h : dims.length = dims'.length) : names.read dims = names.read dims' := by
  cases names with
  | none => exact congrArg (List.replicate · none) h
  | some given => rfl

/-- An operation keeps the two apart if the dimensions that it answers are made of the sizes alone,
and the names of the given names and the ranks. -/
theorem Independent.of_answer {rank : σ → ρ} {op : σ → ν → Outcome NamedShape} (D : σ → Shape)
    (N : σ → ν → List AxisName)
    (hanswer : ∀ sizes given {r}, (op sizes given).result = .ok r → ⟨D sizes, N sizes given⟩ = r)
    (hrank : ∀ sizes sizes' given, rank sizes = rank sizes' → N sizes given = N sizes' given) :
    Independent rank op where
  dims_eq := by
    intro sizes given given' r r' h h'
    obtain rfl := hanswer sizes given h
    obtain rfl := hanswer sizes given' h'
    rfl
  names_eq := by
    intro sizes sizes' given r r' hsame h h'
    obtain rfl := hanswer sizes given h
    obtain rfl := hanswer sizes' given h'
    exact hrank sizes sizes' given hsame

section Removal

variable (axes : List ℤ)

theorem GivenNames.eraseAxes_read_congr {dims dims' : Shape} (names : GivenNames)
    (h : dims.length = dims'.length) :
    eraseAxes axes (names.read dims) = eraseAxes axes (names.read dims') :=
  congrArg (eraseAxes axes) (names.read_congr h)

theorem independent_removeAxes :
    Independent List.length fun dims names => removeAxes dims axes names := by
  apply Independent.of_answer (eraseAxes axes) fun dims names => eraseAxes axes (names.read dims)
  · intro dims names r h
    exact (eq_erase_of_removeAxes h).2
  · intro dims dims' names h
    exact names.eraseAxes_read_congr axes h

theorem independent_removeUnitAxes :
    Independent List.length fun dims names => removeUnitAxes dims axes names := by
  apply Independent.of_answer (eraseAxes axes) fun dims names => eraseAxes axes (names.read dims)
  · intro dims names r h
    exact (eq_erase_of_removeUnitAxes h).2
  · intro dims dims' names h
    exact names.eraseAxes_read_congr axes h

end Removal

theorem independent_permute (permutation : List ℤ) :
    Independent List.length fun dims names => permute dims permutation names := by
  apply Independent.of_answer (selectAxes permutation) fun dims names =>
    selectAxes permutation (names.read dims)
  · intro dims names r h
    exact (eq_select_of_permute h).2.2
  · intro dims dims' names h
    exact congrArg (selectAxes permutation) (names.read_congr h)

section Operands

def operandRanks (dims : Shape × Shape) : ℕ × ℕ := (dims.1.length, dims.2.length)

theorem read_congr_operands {dims dims' : Shape × Shape} (names : GivenNames × GivenNames)
    (h : operandRanks dims = operandRanks dims') :
    names.1.read dims.1 = names.1.read dims'.1 ∧ names.2.read dims.2 = names.2.read dims'.2 := by
  obtain ⟨hl, hr⟩ := Prod.mk.inj h
  exact ⟨names.1.read_congr hl, names.2.read_congr hr⟩

theorem independent_dot (lhsAxes rhsAxes : List ℤ) :
    Independent operandRanks fun dims (names : GivenNames × GivenNames) =>
      dot dims.1 lhsAxes names.1 dims.2 rhsAxes names.2 := by
  apply Independent.of_answer
    (fun dims => eraseAxes lhsAxes dims.1 ++ eraseAxes rhsAxes dims.2)
    fun dims names =>
      eraseAxes lhsAxes (names.1.read dims.1) ++ eraseAxes rhsAxes (names.2.read dims.2)
  · intro dims names r h
    exact (eq_contract_of_dot h).2.2
  · intro dims dims' names h
    obtain ⟨hl, hr⟩ := read_congr_operands names h
    rw [hl, hr]

/-- Whether a call takes the shortcut does not matter: both ways answer the combined operands. -/
theorem independent_broadcast :
    Independent operandRanks fun dims (names : GivenNames × GivenNames) =>
      broadcast dims.1 names.1 dims.2 names.2 := by
  apply Independent.of_answer
    (fun dims => (align 1 dims.1 dims.2).map fun pair => max pair.1 pair.2)
    fun dims names => (align none (names.1.read dims.1) (names.2.read dims.2)).map fun pair =>
      pair.1.or pair.2
  · intro dims names r h
    exact (eq_combine_of_broadcast h).2.2
  · intro dims dims' names h
    obtain ⟨hl, hr⟩ := read_congr_operands names h
    rw [hl, hr]

end Operands

section Convolution

structure ConvolutionSizes where
  input : Shape
  kernel : List ℤ
  strides : List ℤ
  padding : List (List ℤ)

theorem independent_convolve :
    Independent (fun sizes : ConvolutionSizes => sizes.input.length) fun sizes names =>
      convolve sizes.input names sizes.kernel sizes.strides sizes.padding where
  dims_eq := by
    intro sizes names names' r r' h h'
    obtain ⟨padding, hpadding, -, -, -, hdims⟩ := result_convolve_eq_ok.mp h
    obtain ⟨padding', hpadding', -, -, -, hdims'⟩ := result_convolve_eq_ok.mp h'
    obtain rfl := EdgePadding.map_entry_injective (hpadding.symm.trans hpadding')
    exact hdims.trans hdims'.symm
  names_eq := by
    intro sizes sizes' names r r' hrank h h'
    obtain ⟨-, -, -, -, hnames, -⟩ := result_convolve_eq_ok.mp h
    obtain ⟨-, -, -, -, hnames', -⟩ := result_convolve_eq_ok.mp h'
    rw [← GivenNames.read_eq_of_assign hnames, ← GivenNames.read_eq_of_assign hnames']
    exact names.read_congr hrank

end Convolution

/-- For fixed axes or a fixed permutation, every operation on named shapes keeps dimensions and
names apart: the answered dimensions do not depend on the names that are given, nor the answered
names on the sizes, except for the ranks. -/
theorem dims_and_names_independent :
    (Independent operandRanks fun dims (names : GivenNames × GivenNames) =>
      broadcast dims.1 names.1 dims.2 names.2) ∧
    (∀ axes, Independent List.length fun dims names => removeAxes dims axes names) ∧
    (∀ lhsAxes rhsAxes, Independent operandRanks fun dims (names : GivenNames × GivenNames) =>
      dot dims.1 lhsAxes names.1 dims.2 rhsAxes names.2) ∧
    (∀ permutation, Independent List.length fun dims names => permute dims permutation names) ∧
    (∀ axes, Independent List.length fun dims names => removeUnitAxes dims axes names) ∧
    Independent (fun sizes : ConvolutionSizes => sizes.input.length) fun sizes names =>
      convolve sizes.input names sizes.kernel sizes.strides sizes.padding :=
  ⟨independent_broadcast, independent_removeAxes, independent_dot, independent_permute,
    independent_removeUnitAxes, independent_convolve⟩

/-- The first of these calls takes the shortcut, and neither of the others does. -/
theorem dims_and_names_independent_of_shortcut :
    let names : GivenNames := .ofNames (some [some "row", none])
    let others : GivenNames := .ofNames (some [none, some "column"])
    (∃ r r', (broadcast [2, 3] names [2, 3] names).result = .ok r ∧
      (broadcast [2, 3] names [2, 3] others).result = .ok r' ∧
        r.names ≠ r'.names ∧ r.dims = r'.dims) ∧
    ∃ r r', (broadcast [2, 3] names [2, 3] names).result = .ok r ∧
      (broadcast [2, 1] names [1, 5] names).result = .ok r' ∧
        r.dims ≠ r'.dims ∧ r.names = r'.names := by
  intro names others
  have hshort : (broadcast [2, 3] names [2, 3] names).result =
      .ok ⟨[2, 3], [some "row", none]⟩ :=
    Outcome.result_eq_ok_of_answer? (by decide +kernel)
  have hothers : (broadcast [2, 3] names [2, 3] others).result =
      .ok ⟨[2, 3], [some "row", some "column"]⟩ :=
    Outcome.result_eq_ok_of_answer? (by decide +kernel)
  have hsizes : (broadcast [2, 1] names [1, 5] names).result =
      .ok ⟨[2, 5], [some "row", none]⟩ :=
    Outcome.result_eq_ok_of_answer? (by decide +kernel)
  refine ⟨⟨_, _, hshort, hothers, by decide, ?_⟩, ⟨_, _, hshort, hsizes, by decide, ?_⟩⟩
  · exact dims_and_names_independent.1.dims_eq ([2, 3], [2, 3]) (names, names) (names, others)
      hshort hothers
  · exact dims_and_names_independent.1.names_eq ([2, 3], [2, 3]) ([2, 1], [1, 5])
      (names, names) rfl hshort hsizes

end TensorShape
