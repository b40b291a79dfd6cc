import Fleet.Proofs.Naming

/-!
# The order of paths

Names are compared byte by byte, and paths component by component: `a/b` comes before `a-b`, though
a slash is a greater byte than a hyphen. What a component is does not depend on how often a slash
is repeated, and a step to the directory itself is none, except at the start.

**The law** (`FilePath.comesBefore_child`): of two things in one directory the one with the lesser
name has the lesser path. So whoever sorts names sorts paths, and, the order of names being a total
one, in one way only (`FilePath.mergeSort_eq_of_sorted`).
-/

namespace Fleet

namespace FilePath

variable {a b c name path : Bytes}

/-! ## Names -/

theorem nameLe_refl (a : Bytes) : nameLe a a = true := by
  induction a with
  | nil => rfl
  | cons b rest ih => simp [nameLe, ih]

theorem nameLe_total (a b : Bytes) : (nameLe a b || nameLe b a) = true := by
  induction a generalizing b with
  | nil => rfl
  | cons x as ih =>
    cases b with
    | nil => rfl
    | cons y bs =>
      by_cases same : x = y
      · subst same
        simpa [nameLe] using ih bs
      · rcases UInt8.lt_or_lt_of_ne same with less | more
        · simp [nameLe, less]
        · simp [nameLe, more]

theorem nameLe_antisymm (below : nameLe a b = true) (above : nameLe b a = true) : a = b := by
  induction a generalizing b with
  | nil =>
    cases b with
    | nil => rfl
    | cons y bs => cases above
  | cons x as ih =>
    cases b with
    | nil => cases below
    | cons y bs =>
      simp only [nameLe, Bool.or_eq_true, decide_eq_true_eq, Bool.and_eq_true, beq_iff_eq]
        at below above
      rcases below with less | ⟨rfl, below⟩
      · rcases above with more | ⟨rfl, -⟩
        · exact absurd more (UInt8.lt_asymm less)
        · exact absurd less (UInt8.lt_irrefl _)
      · rcases above with more | ⟨-, above⟩
        · exact absurd more (UInt8.lt_irrefl _)
        · rw [ih below above]

theorem nameLe_trans (first : nameLe a b = true) (second : nameLe b c = true) :
    nameLe a c = true := by
  induction a generalizing b c with
  | nil => rfl
  | cons x as ih =>
    cases b with
    | nil => cases first
    | cons y bs =>
      cases c with
      | nil => cases second
      | cons z cs =>
        simp only [nameLe, Bool.or_eq_true, decide_eq_true_eq, Bool.and_eq_true, beq_iff_eq]
          at first second ⊢
        rcases first with less | ⟨rfl, first⟩
        · rcases second with more | ⟨rfl, -⟩
          · exact .inl (UInt8.lt_trans less more)
          · exact .inl less
        · rcases second with more | ⟨rfl, second⟩
          · exact .inl more
          · exact .inr ⟨rfl, ih first second⟩

theorem pairwise_mergeSort (names : List Bytes) :
    (names.mergeSort nameLe).Pairwise (nameLe · ·) :=
  @List.pairwise_mergeSort _ nameLe (fun _ _ _ => nameLe_trans) nameLe_total names

/-- **Names can be sorted in one way only**, whatever the order in which they are given. -/
theorem mergeSort_eq_of_sorted {names listed : List Bytes}
    (sorted : names.Pairwise (nameLe · ·)) (same : names.Perm listed) :
    listed.mergeSort nameLe = names := by
  exact List.Perm.eq_of_pairwise (fun a b _ _ => nameLe_antisymm) (pairwise_mergeSort listed)
    sorted ((List.mergeSort_perm listed nameLe).trans same.symm)

/-! ## Components -/

/-- What a path is made of, in the order in which one comes before another. -/
inductive Component where
  | root
  /-- The directory itself, at the start of a path. -/
  | self
  /-- The directory above. -/
  | parent
  | name (bytes : Bytes)
  deriving DecidableEq

namespace Component

def rank : Component → Nat
  | .root => 0
  | .self => 1
  | .parent => 2
  | .name _ => 3

/-- Whether one component comes before another. -/
def le : Component → Component → Bool
  | .name a, .name b => nameLe a b
  | a, b => a.rank ≤ b.rank

/-- The component that a piece between slashes stands for. -/
def ofPiece (piece : Bytes) : Component := if piece = FilePath.parent then .parent else .name piece

end Component

/-- What stands for the place where a path starts. -/
def lead (path : Bytes) : List Component :=
  if isAbsolute path then [.root]
  else if (piecesOf path).head? = some self then [.self] else []

/-- The components of a path. -/
def components (path : Bytes) : List Component :=
  lead path ++ ((piecesOf path).filter fun piece => piece ≠ [] ∧ piece ≠ self).map .ofPiece

/-- Whether one list of components comes before another: at the first where they differ. -/
def componentsLe : List Component → List Component → Bool
  | [], _ => true
  | _ :: _, [] => false
  | a :: as, b :: bs => if a = b then componentsLe as bs else a.le b

/-- Whether one path comes before another. -/
def comesBefore (a b : Bytes) : Bool := componentsLe (components a) (components b)

example : comesBefore [97, slash, 98] [97, 45, 98] = true ∧
    nameLe [97, slash, 98] [97, 45, 98] = false := by decide +kernel

theorem componentsLe_append (front as bs : List Component) :
    componentsLe (front ++ as) (front ++ bs) = componentsLe as bs := by
  induction front with
  | nil => rfl
  | cons c front ih => exact (if_pos rfl).trans ih

theorem isAbsolute_child (filled : path ≠ []) (name : Bytes) :
    isAbsolute (child path name) = isAbsolute path := by
  obtain ⟨b, rest, rfl⟩ := List.exists_cons_of_ne_nil filled
  unfold child isAbsolute
  split <;> rfl

/-- What is inside a directory has one component more. -/
theorem components_child (filled : path ≠ []) (isName : IsName name) :
    components (child path name) = components path ++ [.name name] := by
  obtain ⟨before, after, some, blank, whole, longer⟩ := piecesOf_child path isName
  have lead : lead (child path name) = lead path := by
    obtain ⟨first, rest, rfl⟩ := List.exists_cons_of_ne_nil some
    rw [FilePath.lead, FilePath.lead, isAbsolute_child filled, whole, longer]
    rfl
  have dropped : after.filter (fun piece => piece ≠ [] ∧ piece ≠ self) = [] := by
    rw [List.filter_eq_nil_iff]
    intro piece among
    simp [blank piece among]
  have kept : [name].filter (fun piece => piece ≠ [] ∧ piece ≠ self) = [name] :=
    List.filter_cons_of_pos (by simp [isName.some, isName.self])
  have piece : Component.ofPiece name = .name name := if_neg isName.parent
  rw [components, components, lead, whole, longer, List.filter_append, List.filter_append, dropped,
    kept, List.append_nil, List.map_append, List.map_singleton, piece, List.append_assoc]

/-- **Of two things in one directory the one with the lesser name has the lesser path.** -/
theorem comesBefore_child (filled : path ≠ []) (first : IsName a) (second : IsName b) :
    comesBefore (child path a) (child path b) = nameLe a b := by
  rw [comesBefore, components_child filled first, components_child filled second,
    componentsLe_append, componentsLe]
  split
  · next same =>
    cases same
    rw [componentsLe, nameLe_refl]
  · rw [Component.le]

end FilePath

end Fleet
