import Fleet.Host

/-!
# Hosts as text

A host is written `host` or `user@host`, and hosts are listed with commas between them. Reading is
not the inverse of writing for every host: a name that holds an `@` and comes from a file is taken
as it stands. It is for those hosts that have been read, and that is what a list is made of.

**The law** (`Host.text_round_trip`): what is read is written as it was, wherever it holds an `@`;
so no two texts are read as the same host. A list of hosts is read from a text exactly if the text
names these hosts in this order, each of them whole, with commas between and with any blanks and
empty items added (`Lists`), where a host that a blank or a comma would break is in no list
(`Host.IsListable`).
-/

namespace Fleet

/-! ## One host -/

/-- A split at the last separator loses nothing. -/
theorem splitLast_eq_some {sep : Char} {cs before after : List Char}
    (split : splitLast sep cs = some (before, after)) : cs = before ++ sep :: after := by
  induction cs generalizing before with
  | nil => cases split
  | cons c cs ih =>
    rw [splitLast] at split
    split at split
    · next before' after' later =>
      cases split
      rw [List.cons_append, ← ih later]
    · split at split
      · next here =>
        cases split
        rw [here]
        rfl
      · cases split

namespace Host

/-- **A host that was read is written as it was.** -/
theorem display_parse (spec : String) : (parse spec).display = spec := by
  unfold parse
  split
  · next c user hostname split =>
    refine String.toList_inj.mp ?_
    rw [splitLast_eq_some split]
    simp only [display, String.toList_append, String.toList_ofList, List.append_assoc]
    rfl
  · rfl

theorem parse_injective : Function.Injective parse := by
  intro spec other same
  rw [← display_parse spec, same, display_parse other]

/-- A host of a file may have an `@` in its name, and then it is not what its text is read as. -/
example : parse (display ⟨"b@c", some "a"⟩) = ⟨"c", some "a@b"⟩ := by decide +kernel

end Host

/-! ## Blanks around an item -/

/-- An item of a list without the blanks around it. -/
def strip (item : List Char) : List Char := dropEndBlanks (dropBlanks item)

/-- A text of blanks alone, of any length. -/
def AllBlank (cs : List Char) : Prop := ∀ c ∈ cs, isBlank c = true

theorem AllBlank.reverse {cs : List Char} (blank : AllBlank cs) : AllBlank cs.reverse :=
  fun c among => blank c (List.mem_reverse.mp among)

/-- A text with no blank at either end. -/
structure IsTrimmed (cs : List Char) : Prop where
  front : ∀ c, cs.head? = some c → isBlank c = false
  back : ∀ c, cs.getLast? = some c → isBlank c = false

theorem dropBlanks_space_append {space : List Char} (blank : AllBlank space) (cs : List Char) :
    dropBlanks (space ++ cs) = dropBlanks cs :=
  List.dropWhile_append_of_pos blank

theorem dropBlanks_of_front {cs : List Char} (front : ∀ c, cs.head? = some c → isBlank c = false) :
    dropBlanks cs = cs := by
  cases cs with
  | nil => rfl
  | cons c cs => exact List.dropWhile_cons_of_neg (Bool.eq_false_iff.mp (front c rfl))

theorem strip_space {space : List Char} (blank : AllBlank space) : strip space = [] := by
  have gone := dropBlanks_space_append blank []
  rw [List.append_nil] at gone
  rw [strip, gone]
  rfl

/-- Blanks around a text do not count. -/
theorem strip_padded {before cs after : List Char} (front : AllBlank before)
    (trimmed : IsTrimmed cs) (back : AllBlank after) : strip (before ++ cs ++ after) = cs := by
  rw [List.append_assoc, strip, dropBlanks_space_append front]
  cases cs with
  | nil => exact strip_space back
  | cons c cs =>
    have start : dropBlanks (c :: cs ++ after) = c :: cs ++ after :=
      dropBlanks_of_front fun first here => trimmed.front first here
    have stop : dropBlanks (c :: cs).reverse = (c :: cs).reverse :=
      dropBlanks_of_front fun last here => trimmed.back last (List.head?_reverse ▸ here)
    rw [start, dropEndBlanks, List.reverse_append, ← dropBlanks,
      dropBlanks_space_append back.reverse, stop, List.reverse_reverse]

theorem front_dropBlanks (cs : List Char) (c : Char) (first : (dropBlanks cs).head? = some c) :
    isBlank c = false := by
  have stopped := List.head?_dropWhile_not isBlank cs
  rw [← dropBlanks, first] at stopped
  exact stopped

/-- Every text is blanks around what is left of it without them. -/
theorem exists_padding (cs : List Char) :
    ∃ before after, AllBlank before ∧ AllBlank after ∧ IsTrimmed (strip cs) ∧
      cs = before ++ strip cs ++ after := by
  have taken (cs : List Char) : AllBlank (cs.takeWhile isBlank) :=
    List.all_eq_true.mp List.all_takeWhile
  have start : cs = cs.takeWhile isBlank ++ dropBlanks cs :=
    List.takeWhile_append_dropWhile.symm
  have stop : dropBlanks cs
      = strip cs ++ ((dropBlanks cs).reverse.takeWhile isBlank).reverse := by
    refine List.reverse_inj.mp ?_
    rw [List.reverse_append, strip, dropEndBlanks, List.reverse_reverse, List.reverse_reverse,
      List.takeWhile_append_dropWhile]
  refine ⟨_, _, taken cs, (taken (dropBlanks cs).reverse).reverse, ⟨?_, ?_⟩, ?_⟩
  · intro c first
    refine front_dropBlanks cs c ?_
    rw [stop, List.head?_append, first]
    rfl
  · intro c last
    rw [strip, dropEndBlanks, List.getLast?_reverse] at last
    exact front_dropBlanks _ c last
  · rw [List.append_assoc, ← stop]
    exact start

/-! ## Lists -/

theorem splitAll_eq_splitOn (sep : Char) (cs : List Char) : splitAll sep cs = cs.splitOn sep := by
  induction cs with
  | nil => rfl
  | cons c cs ih =>
    rw [splitAll, List.splitOn_cons_eq_if_modifyHead, ih]
    by_cases here : c = sep
    · rw [if_pos here, if_pos (beq_iff_eq.mpr here)]
    · rw [if_neg here, if_neg (mt beq_iff_eq.mp here)]
      cases rest : cs.splitOn sep with
      | nil => exact absurd rest (List.splitOn_ne_nil sep cs)
      | cons piece pieces => rfl

/-- No piece holds the separator. -/
theorem not_mem_of_mem_splitOn {sep : Char} {cs : List Char} :
    ∀ piece ∈ cs.splitOn sep, sep ∉ piece := by
  induction cs with
  | nil =>
    intro piece among
    rw [List.mem_singleton.mp among]
    exact List.not_mem_nil
  | cons c cs ih =>
    intro piece among
    rw [List.splitOn_cons_eq_if_modifyHead] at among
    split at among
    · rcases List.mem_cons.mp among with rfl | later
      · exact List.not_mem_nil
      · exact ih piece later
    · next other =>
      cases rest : cs.splitOn sep with
      | nil => exact absurd rest (List.splitOn_ne_nil sep cs)
      | cons first pieces =>
        rw [rest] at ih among
        rcases List.mem_cons.mp among with rfl | later
        · intro inside
          rcases List.mem_cons.mp inside with rfl | inside
          · exact other (beq_self_eq_true sep)
          · exact ih first List.mem_cons_self inside
        · exact ih piece (List.mem_cons_of_mem first later)

namespace Host

/-- The host that an item of a list names, if it names one. -/
def ofItem? (item : List Char) : Option Host :=
  if strip item = [] then none else some (parse (String.ofList (strip item)))

theorem ofItem?_of_strip_eq_nil {item : List Char} (empty : strip item = []) :
    ofItem? item = none :=
  if_pos empty

theorem ofItem?_of_strip_ne_nil {item : List Char} (some : strip item ≠ []) :
    ofItem? item = .some (parse (String.ofList (strip item))) :=
  if_neg some

theorem ofItem?_padded {before after : List Char} {spec : String} (front : AllBlank before)
    (back : AllBlank after) (trimmed : IsTrimmed spec.toList) (nonempty : spec ≠ "") :
    ofItem? (before ++ spec.toList ++ after) = some (parse spec) := by
  have bare : strip (before ++ spec.toList ++ after) = spec.toList :=
    strip_padded front trimmed back
  have some : strip (before ++ spec.toList ++ after) ≠ [] := by
    rw [bare]
    exact fun empty => nonempty (String.toList_eq_nil_iff.mp empty)
  rw [ofItem?_of_strip_ne_nil some, bare, String.ofList_toList]

end Host

/-- A list is read item by item. -/
theorem parseHostList_eq (list : String) :
    parseHostList list = (list.toList.splitOn ',').filterMap Host.ofItem? := by
  rw [parseHostList, splitAll_eq_splitOn]
  induction list.toList.splitOn ',' with
  | nil => rfl
  | cons item items ih =>
    rw [List.map_cons, List.filter_cons, List.filterMap_cons]
    by_cases empty : strip item = []
    · rw [Host.ofItem?_of_strip_eq_nil empty, if_neg (by simpa [strip] using empty), ih]
    · rw [Host.ofItem?_of_strip_ne_nil empty, if_pos (by simpa [strip] using empty),
        List.map_cons, ih]
      rfl

/-- **Lists that a comma joins are read one after the other.** -/
theorem parseHostList_append (a b : String) :
    parseHostList (a ++ "," ++ b) = parseHostList a ++ parseHostList b := by
  have cut : (a ++ "," ++ b).toList = a.toList ++ ',' :: b.toList := by
    rw [String.toList_append, String.toList_append, List.append_assoc]
    rfl
  rw [parseHostList_eq, cut, List.splitOn_append_cons_self, List.filterMap_append,
    ← parseHostList_eq, ← parseHostList_eq]

/-- `Lists hosts items`: the items name these hosts, in this order, with any blanks around each and
any blank items between. -/
inductive Lists : List Host → List String → Prop where
  | nil : Lists [] []
  /-- An item that names no host. -/
  | blank {space : String} {hosts : List Host} {items : List String}
      (blank : AllBlank space.toList) (rest : Lists hosts items) : Lists hosts (space :: items)
  /-- An item that names a host. -/
  | host {before after : String} {host : Host} {hosts : List Host} {items : List String}
      (front : AllBlank before.toList) (back : AllBlank after.toList) (rest : Lists hosts items) :
      Lists (host :: hosts) ((before ++ host.display ++ after) :: items)

/-- A host that can be named in a list: it has been read from a text, which is not empty and in
which neither a comma nor a blank at an end gets lost. -/
structure Host.IsListable (host : Host) : Prop where
  parsed : ∃ spec, host = parse spec
  nonempty : host.display ≠ ""
  whole : ',' ∉ host.display.toList
  trimmed : IsTrimmed host.display.toList

namespace Lists

variable {hosts : List Host} {items : List String}

theorem not_mem_item (lists : Lists hosts items) (listable : ∀ host ∈ hosts, host.IsListable) :
    ∀ item ∈ items, ',' ∉ item.toList := by
  have visible : isBlank ',' = false := by decide
  have outside {space : String} (blank : AllBlank space.toList) : ',' ∉ space.toList :=
    fun inside => Bool.false_ne_true (visible.symm.trans (blank ',' inside))
  induction lists with
  | nil =>
    intro item among
    cases among
  | @blank space hosts items blank _ ih =>
    intro item among
    rcases List.mem_cons.mp among with rfl | later
    · exact outside blank
    · exact ih listable item later
  | @host before after host hosts items front back _ ih =>
    intro item among
    rcases List.mem_cons.mp among with rfl | later
    · rw [String.toList_append, String.toList_append, List.mem_append, List.mem_append]
      rintro ((inside | inside) | inside)
      · exact outside front inside
      · exact (listable host List.mem_cons_self).whole inside
      · exact outside back inside
    · exact ih (fun other among => listable other (List.mem_cons_of_mem host among)) item later

theorem filterMap_ofItem? (lists : Lists hosts items)
    (listable : ∀ host ∈ hosts, host.IsListable) :
    (items.map String.toList).filterMap Host.ofItem? = hosts := by
  induction lists with
  | nil => rfl
  | @blank space hosts items blank _ ih =>
    rw [List.map_cons, List.filterMap_cons, Host.ofItem?_of_strip_eq_nil (strip_space blank),
      ih listable]
  | @host before after host hosts items front back _ ih =>
    obtain ⟨⟨spec, parsed⟩, nonempty, -, trimmed⟩ := listable host List.mem_cons_self
    have named : Host.ofItem? (before ++ host.display ++ after).toList = some host := by
      rw [String.toList_append, String.toList_append,
        Host.ofItem?_padded front back trimmed nonempty, parsed, Host.display_parse]
    rw [List.map_cons, List.filterMap_cons, named,
      ih fun other among => listable other (List.mem_cons_of_mem host among)]

/-- What is listed is read. -/
theorem parseHostList (lists : Lists hosts items) (listable : ∀ host ∈ hosts, host.IsListable) :
    parseHostList (",".intercalate items) = hosts := by
  rw [parseHostList_eq, String.toList_intercalate]
  by_cases none : items = []
  · subst none
    cases lists
    rfl
  · have cut : List.splitOn ',' (",".toList.intercalate (items.map String.toList))
        = items.map String.toList := by
      refine List.splitOn_intercalate ',' ?_ (mt List.map_eq_nil_iff.mp none)
      intro item among
      obtain ⟨text, listed, rfl⟩ := List.mem_map.mp among
      exact lists.not_mem_item listable text listed
    rw [cut]
    exact lists.filterMap_ofItem? listable

/-- What is read was listed. -/
theorem of_items (items : List (List Char)) :
    Lists (items.filterMap Host.ofItem?) (items.map String.ofList) := by
  induction items with
  | nil => exact .nil
  | cons item items ih =>
    obtain ⟨before, after, front, back, -, padded⟩ := exists_padding item
    rw [List.filterMap_cons, List.map_cons]
    by_cases empty : strip item = []
    · rw [empty, List.append_nil] at padded
      rw [Host.ofItem?_of_strip_eq_nil empty]
      refine .blank (fun c among => ?_) ih
      rw [String.toList_ofList, padded] at among
      exact (List.mem_append.mp among).elim (front c) (back c)
    · have written : String.ofList item
          = .ofList before ++ (Host.parse (.ofList (strip item))).display ++ .ofList after := by
        rw [Host.display_parse, ← String.ofList_append, ← String.ofList_append, ← padded]
      rw [Host.ofItem?_of_strip_ne_nil empty, written]
      refine .host ?_ ?_ ih
      · rwa [String.toList_ofList]
      · rwa [String.toList_ofList]

end Lists

theorem Host.isListable_of_mem {list : String} {host : Host} (among : host ∈ parseHostList list) :
    host.IsListable := by
  rw [parseHostList_eq] at among
  obtain ⟨item, inside, named⟩ := List.mem_filterMap.mp among
  unfold ofItem? at named
  split at named
  · cases named
  · next some =>
    obtain rfl := Option.some.inj named
    obtain ⟨before, after, -, -, trimmed, padded⟩ := exists_padding item
    refine ⟨⟨_, rfl⟩, ?_, ?_, ?_⟩
    all_goals rw [display_parse]
    · exact fun empty => some (by simpa using congrArg String.toList empty)
    · rw [String.toList_ofList]
      intro comma
      refine not_mem_of_mem_splitOn item inside ?_
      rw [padded]
      exact List.mem_append_left _ (List.mem_append_right _ comma)
    · rwa [String.toList_ofList]

/-- **Hosts are read as they are written.**

What was read as a host is written as it was, wherever it holds an `@`; so no two texts are read as
the same host, and a host that was read is read again from how it is written. A list of hosts is
read from a text exactly if each of them can be named in a list, and the text names them in this
order, duplicates included, with commas between, any blanks around each, and any number of blank
items anywhere. -/
theorem Host.text_round_trip :
    (∀ spec, (parse spec).display = spec) ∧ Function.Injective parse ∧
    (∀ spec, parse (parse spec).display = parse spec) ∧
    ∀ (hosts : List Host) (list : String), parseHostList list = hosts ↔
      (∀ host ∈ hosts, host.IsListable) ∧
        ∃ items, Lists hosts items ∧ list = ",".intercalate items := by
  refine ⟨display_parse, parse_injective, fun spec => congrArg parse (display_parse spec),
    fun hosts list => ⟨?_, ?_⟩⟩
  · rintro rfl
    refine ⟨fun host among => isListable_of_mem among, _,
      parseHostList_eq list ▸ Lists.of_items (list.toList.splitOn ','), ?_⟩
    refine String.toList_inj.mp ?_
    rw [String.toList_intercalate, List.map_map]
    have same : String.toList ∘ String.ofList = id := funext fun _ => String.toList_ofList
    rw [same, List.map_id]
    exact (List.intercalate_splitOn ',').symm
  · rintro ⟨listable, items, lists, rfl⟩
    exact lists.parseHostList listable

end Fleet
