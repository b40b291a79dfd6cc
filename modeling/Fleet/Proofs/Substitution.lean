import Fleet.Proofs.AddressUse

/-!
# What a template puts in

A template that is made of text and of references to the parameters of a host is filled in: the text
stays as it is, and in the place of each reference stands the value, as it is. Text must be free of
braces and backslashes, with which tags begin and end; nothing is asked of the values, and of what
stands around a reference on its line.

**The law** (`CommandTemplate.substituted`): every such source is a template, and this is what it is
rendered as. It is taken to use the address exactly if it refers to it.

The source is followed through the stages of reading: a bare name between braces is read as a tag
that prints it (`tag?_name`), tags that print take no blank space away (`settle_shows`), and so the
elements are the segments, except that text in several segments is in one element (`Spells`).
-/

namespace Fleet

namespace Template

namespace Reader

/-! ## Bare names -/

variable {name rest : List Char}

/-- A name that stands for itself: no word with a meaning of its own, nor the beginning of one. -/
structure IsBare (name : List Char) : Prop where
  nonempty : name ≠ []
  all : ∀ c ∈ name, isNameChar c = true
  not_else : ¬ "else".toList <+: name
  not_this : name ≠ "this".toList

theorem IsBare.exists_cons (bare : IsBare name) :
    ∃ c cs, name = c :: cs ∧ ∀ d, isNameChar d = false → c ≠ d := by
  obtain ⟨c, cs, rfl⟩ := List.exists_cons_of_ne_nil bare.nonempty
  refine ⟨c, cs, rfl, ?_⟩
  rintro d other rfl
  exact Bool.false_ne_true (other.symm.trans (bare.all c List.mem_cons_self))

theorem expect_eq_some {token cs rest : List Char} (taken : expect token cs = some rest) :
    cs = token ++ rest := by
  unfold expect at taken
  split at taken
  · next starts =>
    obtain ⟨more, rfl⟩ := List.isPrefixOf_iff_prefix.mp starts
    rw [List.drop_left] at taken
    rw [Option.some.inj taken]
  · cases taken

theorem expect_cons_ne {c d : Char} {token cs : List Char} (other : c ≠ d) :
    expect (d :: token) (c :: cs) = none := by
  rw [expect, List.isPrefixOf, beq_eq_false_iff_ne.mpr other.symm]
  rfl

/-- A word at the front of a name with a brace behind it is at the front of the name. -/
theorem expect_name {token after : List Char} (word : '\x7d' ∉ token)
    (taken : expect token (name ++ '\x7d' :: rest) = some after) :
    ∃ more, name = token ++ more ∧ after = more ++ '\x7d' :: rest := by
  rcases List.append_eq_append_iff.mp (expect_eq_some taken) with
    ⟨beyond, longer, behind⟩ | ⟨more, whole, behind⟩
  · cases beyond with
    | nil => exact ⟨[], by simpa using longer.symm, behind.symm⟩
    | cons c beyond =>
      obtain rfl := (List.cons.inj behind).1
      exact absurd (longer ▸ List.mem_append_right name List.mem_cons_self) word
  · exact ⟨more, whole, behind⟩

theorem name?_name (bare : IsBare name) :
    name? (name ++ '\x7d' :: rest) = some (String.ofList name, '\x7d' :: rest) := by
  have taken : (name ++ '\x7d' :: rest).takeWhile isNameChar = name := by
    rw [List.takeWhile_append_of_pos bare.all, List.takeWhile_cons_of_neg (by decide),
      List.append_nil]
  rw [name?, taken]
  obtain ⟨c, cs, rfl, -⟩ := bare.exists_cons
  exact congrArg (fun after => some (_, after)) List.drop_left

theorem argument?_closing (room : Nat) : argument? room ('\x7d' :: rest) = none := by
  cases room with
  | zero => rw [argument?]
  | succ room =>
    have keyword : startsKeyword ('\x7d' :: rest) = false := rfl
    have literal : literal? ('\x7d' :: rest) = none := rfl
    have path : path? ('\x7d' :: rest) = none := rfl
    have call : subexpression? room ('\x7d' :: rest) = none := by cases room <;> rfl
    rw [argument?, keyword, literal, path, call]
    rfl

/-- Behind a name that a brace ends there are no arguments. -/
theorem arguments_closing (room : Nat) :
    arguments room ('\x7d' :: rest) = ([], [], '\x7d' :: rest) := by
  cases room with
  | zero => rw [arguments]
  | succ room =>
    have blank : skip ('\x7d' :: rest) = '\x7d' :: rest := rfl
    have name : name? ('\x7d' :: rest) = none := rfl
    rw [arguments]
    simp only [blank, name, argument?_closing]
    rfl

theorem beq_eq_false_of_isNameChar {c d : Char} (inName : isNameChar c = true)
    (other : isNameChar d = false) : (c == d) = false :=
  beq_eq_false_iff_ne.mpr fun same => Bool.false_ne_true (other.symm.trans (same ▸ inName))

theorem isStepSeparator_eq_false {c : Char} (inName : isNameChar c = true) :
    isStepSeparator c = false := by
  have apart {d : Char} := beq_eq_false_of_isNameChar (d := d) inName
  rw [isStepSeparator, apart (by decide), apart (by decide)]
  rfl

theorem isSpace_eq_false {c : Char} (inName : isNameChar c = true) : isSpace c = false := by
  have apart {d : Char} := beq_eq_false_of_isNameChar (d := d) inName
  rw [isSpace, apart (by decide), apart (by decide), apart (by decide), apart (by decide)]
  rfl

/-- The path of a bare name. -/
def barePath (name : String) : Path := { source := name, names := [name] }

theorem dropCurrent_name (bare : IsBare name) :
    dropCurrent (name ++ '\x7d' :: rest) = name ++ '\x7d' :: rest := by
  unfold dropCurrent
  split
  · next c after taken =>
    obtain ⟨more, whole, behind⟩ := expect_name (by decide) taken
    have ends : isStepSeparator c = false := by
      cases more with
      | nil =>
        obtain rfl := (List.cons.inj behind).1
        rfl
      | cons d more =>
        obtain rfl := (List.cons.inj behind).1
        have inside : c ∈ name := whole ▸ List.mem_append_right _ List.mem_cons_self
        exact isStepSeparator_eq_false (bare.all c inside)
    rw [ends]
    rfl
  · obtain ⟨c, cs, rfl, apart⟩ := bare.exists_cons
    rw [List.cons_append, expect_cons_ne (apart '.' (by decide))]
    rfl

theorem dropRoot_name (bare : IsBare name) : dropRoot (name ++ rest) = (false, name ++ rest) := by
  obtain ⟨c, cs, rfl, apart⟩ := bare.exists_cons
  have unrooted : expect "@root".toList (c :: (cs ++ rest)) = none :=
    expect_cons_ne (apart '@' (by decide))
  rw [List.cons_append, dropRoot, unrooted]

theorem levels_name (bare : IsBare name) : levels (name ++ rest) = (0, name ++ rest) := by
  obtain ⟨c, cs, rfl, apart⟩ := bare.exists_cons
  rw [List.cons_append, levels.eq_def]
  split
  · next dotted => exact absurd (List.cons.inj dotted).1 (apart '.' (by decide))
  · rfl

theorem step?_name (bare : IsBare name) :
    step? (name ++ '\x7d' :: rest) = some (.ofList name, '\x7d' :: rest) := by
  have named : name? (name ++ '\x7d' :: rest) = some (.ofList name, '\x7d' :: rest) :=
    name?_name bare
  obtain ⟨c, cs, rfl, apart⟩ := bare.exists_cons
  rw [List.cons_append, step?.eq_def]
  split
  · next bracketed => exact absurd (List.cons.inj bracketed).1 (apart '[' (by decide))
  · exact named

theorem moreSteps_closing (room : Nat) :
    moreSteps room ('\x7d' :: rest) = ([], '\x7d' :: rest) := by
  cases room <;> rfl

theorem path?_name (bare : IsBare name) :
    path? (name ++ '\x7d' :: rest) = some (barePath (.ofList name), '\x7d' :: rest) := by
  have source : (name ++ '\x7d' :: rest).take
      ((name ++ '\x7d' :: rest).length - ('\x7d' :: rest).length) = name := by
    rw [List.length_append, Nat.add_sub_cancel, List.take_left]
  have whole : [String.ofList name].filter (· != "this") = [String.ofList name] := by
    refine List.filter_eq_self.mpr fun word among => ?_
    rw [List.mem_singleton.mp among, bne_iff_ne]
    exact fun this => bare.not_this (by rw [← this, String.toList_ofList])
  have unmarked (after : List Char) : name ++ '\x7d' :: rest ≠ '@' :: after := by
    obtain ⟨c, cs, rfl, apart⟩ := bare.exists_cons
    exact fun marked => apart '@' (by decide) (List.cons.inj marked).1
  unfold path?
  rw [dropCurrent_name bare, dropRoot_name bare]
  -- by `unmarked` the path is not that of a variable
  simp only [levels_name bare, step?_name bare, moreSteps_closing, source, whole, Option.map_some]
  rfl

theorem expression?_name (bare : IsBare name) :
    expression? (name ++ '\x7d' :: rest)
      = some (.path (barePath (.ofList name)), '\x7d' :: rest) := by
  have call : subexpression? (name ++ '\x7d' :: rest).length (name ++ '\x7d' :: rest) = none := by
    obtain ⟨c, cs, rfl, apart⟩ := bare.exists_cons
    rw [List.cons_append, List.length_cons, subexpression?, expect_cons_ne (apart '(' (by decide))]
    rfl
  rw [expression?, call, path?_name bare, name?_name bare]
  simp only [arguments_closing, bind, Option.bind]
  rfl

end Reader

namespace Layout

open Template.Reader

variable {name rest : List Char}

/-! ## Tags that print a bare name -/

theorem tilde_name (bare : IsBare name) : tilde (name ++ rest) = (false, name ++ rest) := by
  obtain ⟨c, cs, rfl, apart⟩ := bare.exists_cons
  have unspaced : skip (c :: (cs ++ rest)) = c :: (cs ++ rest) := by
    have ink : isSpace c = false := isSpace_eq_false (bare.all c List.mem_cons_self)
    exact List.dropWhile_cons_of_neg (Bool.eq_false_iff.mp ink)
  rw [List.cons_append, tilde, unspaced]
  split
  · next tilded => exact absurd (List.cons.inj tilded).1 (apart '~' (by decide))
  · rfl

theorem inverse?_name (bare : IsBare name) : inverse? (name ++ '\x7d' :: rest) = none := by
  have word : expect "else".toList (name ++ '\x7d' :: rest) = none := by
    rw [Option.eq_none_iff_forall_ne_some]
    intro after taken
    obtain ⟨more, whole, -⟩ := expect_name (by decide) taken
    exact bare.not_else (whole ▸ List.prefix_append _ more)
  have sign : expect ['^'] (name ++ '\x7d' :: rest) = none := by
    obtain ⟨c, cs, rfl, apart⟩ := bare.exists_cons
    exact expect_cons_ne (apart '^' (by decide))
  rw [inverse?, word, sign]
  rfl

/-- **A bare name between braces is a tag that prints what the name stands for**, and takes no blank
space away. -/
theorem tag?_name (bare : IsBare name) : tag? (name ++ (closingBraces ++ rest))
    = some (.print (.path (barePath (.ofList name))), false, false, rest) := by
  have printed : print? (name ++ '\x7d' :: '\x7d' :: rest)
      = some (.print (.path (barePath (.ofList name))), '\x7d' :: '\x7d' :: rest) := by
    rw [print?, expression?_name bare]
    rfl
  have inverse : enclosed inverse? closingBraces (name ++ '\x7d' :: '\x7d' :: rest) = none := by
    rw [enclosed, tilde_name bare]
    simp only [inverse?_name bare]
    rfl
  have print : enclosed print? closingBraces (name ++ '\x7d' :: '\x7d' :: rest)
      = some (.print (.path (barePath (.ofList name))), false, false, rest) := by
    rw [enclosed, tilde_name bare]
    simp only [printed]
    rfl
  show tag? (name ++ '\x7d' :: '\x7d' :: rest) = _
  rw [tag?, inverse, print]
  rfl

/-! ## Pieces -/

/-- Whether a character can stand in text as it is. -/
def isPlain (c : Char) : Bool := c != '\x7b' && c != '\x7d' && c != '\\'

/-- Plain text is taken as it is. -/
theorem text_plain {cs : List Char} (plain : ∀ c ∈ cs, isPlain c = true) (rest : List Char) :
    text braces 0 (cs ++ rest) = (cs ++ (text braces 0 rest).1, (text braces 0 rest).2) := by
  induction cs with
  | nil => rfl
  | cons c cs ih =>
    have here := plain c List.mem_cons_self
    simp only [isPlain, Bool.and_eq_true, bne_iff_ne] at here
    obtain ⟨⟨brace, -⟩, backslash⟩ := here
    have later := ih fun d among => plain d (List.mem_cons_of_mem c among)
    have inside : braces.isPrefixOf (c :: (cs ++ rest)) = false := by
      rw [braces, List.isPrefixOf, beq_eq_false_iff_ne.mpr brace.symm]
      rfl
    rw [List.cons_append, text, if_neg (Bool.eq_false_iff.mp inside),
      if_neg fun both => backslash both.1, later]
    rfl

/-- Where no text is pending: at the end, and where a tag begins. -/
def AtTag (rest : List Char) : Prop := text braces 0 rest = ([], rest)

theorem piecesFrom_text {cs rest : List Char} (plain : ∀ c ∈ cs, isPlain c = true)
    (some : cs ≠ []) (stops : AtTag rest) (turns : Nat) (before : List Char) :
    piecesFrom (turns + 1) before (cs ++ rest)
      = (piecesFrom turns (passed before (cs ++ rest) rest) rest).map (.text cs :: ·) := by
  have taken : text braces 0 (cs ++ rest) = (cs, rest) := by
    rw [text_plain plain, stops, List.append_nil]
  obtain ⟨c, cs, rfl⟩ := List.exists_cons_of_ne_nil some
  have untagged : expect braces (c :: (cs ++ rest)) = none := by
    have here := plain c List.mem_cons_self
    simp only [isPlain, Bool.and_eq_true, bne_iff_ne] at here
    exact expect_cons_ne here.1.1
  rw [List.cons_append] at taken ⊢
  rw [piecesFrom, untagged]
  simp only [taken]
  · exact fun empty => by cases empty

theorem piecesFrom_name (bare : IsBare name) (turns : Nat) (before : List Char) :
    ∃ here margins, margins.trimsBefore = false ∧ margins.trimsAfter = false ∧
      piecesFrom (turns + 1) before (braces ++ (name ++ (closingBraces ++ rest)))
        = (piecesFrom turns here rest).map
          (.tag (.print (.path (barePath (.ofList name)))) margins :: ·) := by
  refine ⟨passed before (braces ++ (name ++ (closingBraces ++ rest))) rest,
    marginsOf before rest false false, rfl, rfl, ?_⟩
  have opened : expect braces (braces ++ (name ++ (closingBraces ++ rest)))
      = some (name ++ (closingBraces ++ rest)) := rfl
  rw [piecesFrom, opened]
  simp only [tag?_name bare, bind, Option.bind]
  · cases piecesFrom turns _ rest <;> rfl
  · exact fun empty => by cases empty

/-! ## From pieces to elements -/

/-- `Shows pieces es`: text and printed values, with no tilde at a tag, and the elements that they
become. -/
inductive Shows : List Piece → List Element → Prop where
  | nil : Shows [] []
  | text {cs : List Char} {pieces : List Piece} {es : List Element} (rest : Shows pieces es) :
      Shows (.text cs :: pieces) (.text cs :: es)
  | print {e : Expr} {margins : Margins} {pieces : List Piece} {es : List Element}
      (before : margins.trimsBefore = false) (after : margins.trimsAfter = false)
      (rest : Shows pieces es) : Shows (.tag (.print e) margins :: pieces) (.print e :: es)

variable {pieces : List Piece} {es : List Element}

/-- **A value that is printed takes no blank space away**, also where it stands alone on a line. -/
theorem settle_shows (shows : Shows pieces es) {pending : Pending} (keeps : pending.trims = false)
    (stays : pending.dropsLine = false) : settle pending pieces = pieces := by
  induction shows generalizing pending with
  | nil => rfl
  | @text cs pieces es rest ih =>
    have later : settle { atStart := false } pieces = pieces := ih rfl rfl
    rw [settle]
    simp only [keeps, stays, Bool.false_and, Bool.false_eq_true, if_false]
    split
    · next gap =>
      rw [List.isEmpty_iff.mp (Bool.and_eq_true_iff.mp gap).2]
    · cases rest with
      | nil => rfl
      | text _ => exact congrArg (Piece.text cs :: ·) later
      | @print e margins _ _ before after _ =>
        have whole : beforeTag cs (.print e) margins = cs := by
          rw [beforeTag, before]
          rfl
        simp only [whole]
        exact congrArg (Piece.text cs :: ·) later
  | @print e margins pieces es before after rest ih =>
    rw [settle]
    exact congrArg _ (ih after stays)

theorem nest_shows (shows : Shows pieces es) {turns : Nat} (enough : pieces.length ≤ turns) :
    nest turns pieces = some (es, .atEnd, []) := by
  induction shows generalizing turns with
  | nil => rw [nest]
  | text _ ih | print _ _ _ ih =>
    cases turns with
    | zero => cases enough
    | succ turns =>
      rw [nest]
      simp only [ih (Nat.le_of_succ_le_succ enough)]
      rfl

end Layout

/-! ## Segments -/

/-- The parameters of a host, as a template refers to them. -/
inductive Parameter where
  | host
  | label
  | user
  | rank
  | nhosts
  | address
  deriving Repr, DecidableEq

namespace Parameter

/-- The name by which a template refers to a parameter. -/
def name : Parameter → String
  | host => "host"
  | label => "label"
  | user => "user"
  | rank => "rank"
  | nhosts => "nhosts"
  | address => "address"

/-- What stands in the place of a reference: a text as it is, a number in decimal, and nothing for
an address that is not known. -/
def text (params : TemplateParams) : Parameter → String
  | host => params.host
  | label => params.label
  | user => params.user
  | rank => toString params.rank
  | nhosts => toString params.nhosts
  | address => params.address.getD ""

theorem isBare (parameter : Parameter) : Reader.IsBare parameter.name.toList := by
  cases parameter <;>
    exact ⟨by decide, List.all_eq_true.mp rfl, by decide, by decide⟩

/-- A reference is rendered as the value of the parameter. -/
theorem print (parameter : Parameter) (params : TemplateParams) :
    (Expr.path (Reader.barePath parameter.name)).print (.ofRoot params.toValue)
      = .ok (parameter.text params).toList := by
  have plain : isHelper (Reader.barePath parameter.name).source = false := by
    cases parameter <;> decide +kernel
  have found : (Scope.ofRoot params.toValue).find? (Reader.barePath parameter.name)
      = params.toValue.follow? [parameter.name] :=
    @find?_outermost params (Reader.barePath parameter.name) rfl params.address
  have written : ((params.toValue.follow? [parameter.name]).map Value.write).getD ""
      = parameter.text params := by
    cases parameter with
    | address =>
      obtain ⟨_, _, _, _, _, known⟩ := params
      cases known <;> rfl
    | _ => rfl
  rw [Expr.print, if_neg (Bool.eq_false_iff.mp plain), found, written]

end Parameter

/-- Text that is free of braces and backslashes. -/
structure Literal where
  text : String
  plain : ∀ c ∈ text.toList, Layout.isPlain c = true

/-- A part of a template that is filled in. -/
inductive Segment where
  /-- Text that stays. -/
  | literal (literal : Literal)
  /-- A reference, the name of a parameter between two braces on each side. -/
  | reference (parameter : Parameter)

namespace Segment

/-- A segment as it is written. -/
def source : Segment → String
  | .literal text => text.text
  | .reference parameter => "\x7b\x7b" ++ parameter.name ++ "\x7d\x7d"

/-- A segment as it is filled in. -/
def filled (params : TemplateParams) : Segment → String
  | .literal text => text.text
  | .reference parameter => parameter.text params

/-- Segments as they are written, one after the other. -/
def sourceOf (segments : List Segment) : String := String.join (segments.map source)

/-- Segments as they are filled in. -/
def filledIn (params : TemplateParams) (segments : List Segment) : String :=
  String.join (segments.map (filled params))

end Segment

/-- `Spells es cs segments`: the elements are the text `cs` and then the segments, where text of
more than one segment may be in one element. -/
inductive Spells : List Element → List Char → List Segment → Prop where
  | nil : Spells [] [] []
  /-- Text goes on. -/
  | literal {es : List Element} {cs : List Char} {text : Literal} {segments : List Segment}
      (rest : Spells es (cs ++ text.text.toList) segments) :
      Spells es cs (.literal text :: segments)
  /-- Text ends. -/
  | text {es : List Element} {cs : List Char} {segments : List Segment}
      (rest : Spells es [] segments) : Spells (.text cs :: es) cs segments
  | reference {es : List Element} {parameter : Parameter} {segments : List Segment}
      (rest : Spells es [] segments) :
      Spells (.print (.path (Reader.barePath parameter.name)) :: es) []
        (.reference parameter :: segments)

namespace Layout

open Template.Reader

variable {segments : List Segment} {cs rest before : List Char} {turns : Nat}

/-- From here on the source is read as pieces, and what they show are the segments behind `cs`. -/
def IsRead (turns : Nat) (before source cs : List Char) (segments : List Segment) : Prop :=
  ∃ pieces es, piecesFrom turns before source = some pieces ∧ Shows pieces es ∧
    Spells es cs segments

theorem isRead_nil : IsRead turns before [] [] [] :=
  ⟨[], [], by rw [piecesFrom.eq_def], .nil, .nil⟩

theorem isRead_text (plain : ∀ c ∈ cs, isPlain c = true) (stops : AtTag rest)
    (later : ∀ {turns before}, rest.length ≤ turns → IsRead turns before rest [] segments)
    (enough : (cs ++ rest).length ≤ turns) : IsRead turns before (cs ++ rest) cs segments := by
  cases cs with
  | nil => exact later enough
  | cons c cs =>
    rw [List.cons_append, List.length_cons] at enough
    obtain ⟨turns, rfl⟩ := Nat.exists_eq_add_one_of_ne_zero (Nat.ne_zero_of_lt enough)
    have left : rest.length ≤ turns := by
      rw [List.length_append] at enough
      omega
    obtain ⟨pieces, es, read, shows, spells⟩ := later left
    have taken := piecesFrom_text plain (List.cons_ne_nil c cs) stops turns before
    exact ⟨_, _, taken.trans (congrArg (Option.map _) read), .text shows, .text spells⟩

theorem isRead_reference (parameter : Parameter)
    (later : ∀ before, IsRead turns before rest [] segments) :
    IsRead (turns + 1) before (braces ++ (parameter.name.toList ++ (closingBraces ++ rest))) []
      (.reference parameter :: segments) := by
  obtain ⟨here, margins, padded, padded', taken⟩ := piecesFrom_name parameter.isBare turns before
  obtain ⟨pieces, es, read, shows, spells⟩ := later here
  rw [String.ofList_toList] at taken
  exact ⟨_, _, taken.trans (congrArg (Option.map _) read), .print padded padded' shows,
    .reference spells⟩

theorem isPlain_append {cs ds : List Char} (first : ∀ c ∈ cs, isPlain c = true)
    (second : ∀ c ∈ ds, isPlain c = true) : ∀ c ∈ cs ++ ds, isPlain c = true :=
  fun c among => (List.mem_append.mp among).elim (first c) (second c)

/-- **A source is read as its segments.** The induction is on the segments, with the text in front
of them that is not in a piece yet. -/
theorem isRead_sourceOf (plain : ∀ c ∈ cs, isPlain c = true)
    (enough : (cs ++ (Segment.sourceOf segments).toList).length ≤ turns) :
    IsRead turns before (cs ++ (Segment.sourceOf segments).toList) cs segments := by
  induction segments generalizing cs turns before with
  | nil => exact isRead_text plain rfl (fun _ => isRead_nil) enough
  | cons segment segments ih =>
    have onward : (Segment.sourceOf (segment :: segments)).toList
        = segment.source.toList ++ (Segment.sourceOf segments).toList := by
      rw [Segment.sourceOf, List.map_cons, String.join_cons, String.toList_append]
      rfl
    rw [onward] at enough ⊢
    cases segment with
    | literal text =>
      rw [← List.append_assoc] at enough ⊢
      obtain ⟨pieces, es, read, shows, spells⟩ := ih (isPlain_append plain text.plain) enough
      exact ⟨pieces, es, read, shows, .literal spells⟩
    | reference parameter =>
      have written : (Segment.reference parameter).source.toList
            ++ (Segment.sourceOf segments).toList
          = braces ++ (parameter.name.toList
            ++ (closingBraces ++ (Segment.sourceOf segments).toList)) := by
        cases parameter <;> rfl
      rw [written] at enough ⊢
      refine isRead_text plain rfl (fun {turns _} enough => ?_) enough
      cases turns with
      | zero => cases enough
      | succ turns =>
        have left : (Segment.sourceOf segments).toList.length ≤ turns := by
          simp only [List.length_append] at enough
          have opened : braces.length = 2 := rfl
          omega
        exact isRead_reference parameter fun _ => ih (List.forall_mem_nil _) left

end Layout

namespace Spells

variable {es : List Element} {cs : List Char} {segments : List Segment}

theorem onlyPrintAll (spells : Spells es cs segments) : onlyPrintAll es = true := by
  induction spells with
  | nil => rfl
  | literal _ ih => exact ih
  | text _ ih | reference _ ih => exact ih

theorem isAddress (spells : Spells es cs segments) (among : .reference .address ∈ segments) :
    es.any Element.isAddress = true := by
  induction spells with
  | nil => cases among
  | literal _ ih =>
    rcases List.mem_cons.mp among with same | later
    · cases same
    · exact ih later
  | text _ ih => exact Bool.or_eq_true_iff.mpr (.inr (ih among))
  | reference _ ih =>
    refine Bool.or_eq_true_iff.mpr ?_
    rcases List.mem_cons.mp among with same | later
    · cases same
      exact .inl (by decide +kernel)
    · exact .inr (ih later)

/-- **What is rendered is what the segments are filled in to.** -/
theorem renderAll (spells : Spells es cs segments) (params : TemplateParams) :
    renderAll (.ofRoot params.toValue) es
      = .ok (cs ++ (Segment.filledIn params segments).toList) := by
  have onward (segment : Segment) (segments : List Segment) :
      (Segment.filledIn params (segment :: segments)).toList
        = (segment.filled params).toList ++ (Segment.filledIn params segments).toList := by
    rw [Segment.filledIn, List.map_cons, String.join_cons, String.toList_append]
    rfl
  induction spells with
  | nil => rfl
  | literal _ ih => rw [ih, onward, List.append_assoc]; rfl
  | text _ ih =>
    rw [Template.renderAll, Element.render, ih]
    rfl
  | @reference _ parameter _ _ ih =>
    rw [Template.renderAll, Element.render, parameter.print, ih, onward]
    rfl

end Spells

/-- **A source of segments is a template**, and its elements spell them. -/
theorem exists_elements (segments : List Segment) :
    ∃ es, elements? (Segment.sourceOf segments).toList = some es ∧ Spells es [] segments := by
  have whole : Layout.IsRead (Segment.sourceOf segments).toList.length []
      (Segment.sourceOf segments).toList [] segments :=
    Layout.isRead_sourceOf (List.forall_mem_nil _) (Nat.le_refl _)
  obtain ⟨pieces, es, read, shows, spells⟩ := whole
  refine ⟨es, ?_, spells⟩
  rw [elements?, Layout.pieces?, read]
  simp only [bind, Option.bind, Layout.settle_shows shows, Layout.nest_shows shows (Nat.le_refl _)]
  rfl

namespace Segment

theorem filledIn_of_literal {segments : List Segment}
    (plain : ∀ parameter, .reference parameter ∉ segments) (params : TemplateParams) :
    filledIn params segments = sourceOf segments := by
  refine congrArg String.join (List.map_congr_left fun segment among => ?_)
  cases segment with
  | literal text => rfl
  | reference parameter => exact absurd among (plain parameter)

theorem filledIn_address {segments : List Segment} (plain : .reference .address ∉ segments)
    (params : TemplateParams) (address : Option String) :
    filledIn { params with address } segments = filledIn params segments := by
  refine congrArg String.join (List.map_congr_left fun segment among => ?_)
  cases segment with
  | literal text => rfl
  | reference parameter =>
    cases parameter with
    | address => exact absurd among plain
    | _ => rfl

end Segment

end Template

namespace CommandTemplate

open Template

/-- **A template of text and references is filled in.** It is read as a template, whatever the
segments are; it is rendered, for whatever parameters, as the text as it is and the values as they
are; and it is taken to use the address if and only if it refers to it. What refers to nothing is
rendered as it is written. -/
theorem substituted (segments : List Segment) :
    ∃ template, CommandTemplate.parse (Segment.sourceOf segments) = .ok template ∧
      (∀ params, template.render params = .ok (Segment.filledIn params segments)) ∧
      (template.usesAddress = true ↔ .reference .address ∈ segments) ∧
      ((∀ parameter, .reference parameter ∉ segments) → template.usesAddress = false ∧
        ∀ params, template.render params = .ok (Segment.sourceOf segments)) := by
  obtain ⟨es, read, spells⟩ := exists_elements segments
  let template : CommandTemplate := ⟨Segment.sourceOf segments, es⟩
  have parsed : CommandTemplate.parse (Segment.sourceOf segments) = .ok template := by
    rw [CommandTemplate.parse, read]
  have rendered (params : TemplateParams) :
      template.render params = .ok (Segment.filledIn params segments) := by
    rw [CommandTemplate.render, spells.renderAll]
    exact congrArg Except.ok String.ofList_toList
  have used (among : .reference .address ∈ segments) : template.usesAddress = true := by
    refine usesAddress_of_printsAddress spells.onlyPrintAll (spells.isAddress among) ?_
    rw [probe, rendered]
    exact Option.some_ne_none _
  have unused (plain : .reference .address ∉ segments) : template.usesAddress = false := by
    refine usesAddress_of_same fun a b => ?_
    rw [rendered, rendered]
    exact congrArg Except.ok ((Segment.filledIn_address plain sample a).trans
      (Segment.filledIn_address plain sample b).symm)
  refine ⟨template, parsed, rendered, ⟨fun uses => ?_, used⟩, fun plain => ⟨?_, fun params => ?_⟩⟩
  · exact Classical.byContradiction fun plain =>
      Bool.false_ne_true ((unused plain).symm.trans uses)
  · exact unused (plain .address)
  · rw [rendered, Segment.filledIn_of_literal plain]

/-- A reference alone on its line, and a value that looks like a template. -/
example : (do
      let template ← (CommandTemplate.parse "begin\n  \x7b\x7blabel\x7d\x7d  \nend").toOption
      (template.render { sample with label := "<\x7b\x7buser\x7d\x7d>" }).toOption)
    = some "begin\n  <\x7b\x7buser\x7d\x7d>  \nend" := by
  decide +kernel

end CommandTemplate

end Fleet
