import Fleet.CommandLine.Targets
import Fleet.Proofs.Decoding
import Fleet.Proofs.HostText

/-!
# Which hosts are chosen

The targets of a command line are the hosts of its hosts file and of its lists, without those that
another list leaves out. A host is left out by its name alone, whatever user it or the list has.

**The law** (`Config.targets_selected`): the targets are these hosts in their order, with their
users and with duplicates, and there is a fault exactly if there are none. Where an argument ends
and the next one begins does not matter (`Recut`), and for the hosts to leave out neither their
order nor how often they are named does (`Rearranged`).
-/

namespace Fleet

/-! ## Arguments that say the same -/

/-- `Recut xs ys`: the same items in the same order, cut into arguments at other commas. -/
inductive Recut : List String → List String → Prop where
  /-- Two arguments are made one. -/
  | join {before after : List String} {a b : String} :
      Recut (before ++ a :: b :: after) (before ++ (a ++ "," ++ b) :: after)
  | refl {xs : List String} : Recut xs xs
  | symm {xs ys : List String} (same : Recut xs ys) : Recut ys xs
  | trans {xs ys zs : List String} (first : Recut xs ys) (second : Recut ys zs) : Recut xs zs

/-- `Rearranged xs ys`: the same items, in any order, any number of times, and cut in any way. -/
inductive Rearranged : List String → List String → Prop where
  | recut {xs ys : List String} (same : Recut xs ys) : Rearranged xs ys
  | reorder {xs ys : List String} (same : xs.Perm ys) : Rearranged xs ys
  /-- An argument is repeated. -/
  | repeated {x : String} {xs : List String} (there : x ∈ xs) : Rearranged xs (x :: xs)
  | symm {xs ys : List String} (same : Rearranged xs ys) : Rearranged ys xs
  | trans {xs ys zs : List String} (first : Rearranged xs ys) (second : Rearranged ys zs) :
      Rearranged xs zs

/-- Lists of arguments that are cut at other commas name the same hosts. -/
theorem Recut.flatMap_parseHostList {xs ys : List String} (same : Recut xs ys) :
    xs.flatMap parseHostList = ys.flatMap parseHostList := by
  induction same with
  | @join before after a b =>
    simp only [List.flatMap_append, List.flatMap_cons, parseHostList_append, List.append_assoc]
  | refl => rfl
  | symm _ ih => exact ih.symm
  | trans _ _ first second => exact first.trans second

/-- Whether some host with this name is listed in an argument. -/
def Mentions (lists : List String) (name : String) : Prop :=
  ∃ list ∈ lists, ∃ host ∈ parseHostList list, host.hostname = name

instance (lists : List String) (name : String) : Decidable (Mentions lists name) :=
  inferInstanceAs (Decidable (∃ list ∈ lists, ∃ host ∈ parseHostList list, host.hostname = name))

theorem mentions_iff {lists : List String} {name : String} : Mentions lists name ↔
    name ∈ (lists.flatMap parseHostList).map Host.hostname := by
  simp only [Mentions, List.mem_map, List.mem_flatMap]
  constructor
  · rintro ⟨list, among, host, listed, named⟩
    exact ⟨host, ⟨list, among, listed⟩, named⟩
  · rintro ⟨host, ⟨list, among, listed⟩, named⟩
    exact ⟨list, among, host, listed, named⟩

/-- Rearranged arguments mention the same names. -/
theorem Rearranged.mentions_iff {xs ys : List String} (same : Rearranged xs ys) (name : String) :
    Mentions xs name ↔ Mentions ys name := by
  induction same with
  | recut same => rw [Fleet.mentions_iff, Fleet.mentions_iff, same.flatMap_parseHostList]
  | reorder same => simp only [Mentions, same.mem_iff]
  | @repeated x xs there =>
    constructor
    · rintro ⟨list, among, mentioned⟩
      exact ⟨list, List.mem_cons_of_mem x among, mentioned⟩
    · rintro ⟨list, among, mentioned⟩
      rcases List.mem_cons.mp among with rfl | among
      · exact ⟨list, there, mentioned⟩
      · exact ⟨list, among, mentioned⟩
  | symm _ ih => exact ih.symm
  | trans _ _ first second => exact first.trans second

namespace Config

variable {config other : Config} {fs : FileSystem} {fromFile : List Host}

/-- `config.Loads fs hosts`: no hosts file is named and there are none of its hosts, or it is there
and these are the hosts of its bytes. -/
inductive Loads (config : Config) (fs : FileSystem) : List Host → Prop where
  | unnamed (unnamed : config.hostsFile = none) : Loads config fs []
  | named {path : String} {bytes : Bytes} {hosts : List Host} (named : config.hostsFile = some path)
      (found : fs.read (Utf8.encode path) = .ok bytes)
      (content : HostsFile.parse bytes = .ok hosts) : Loads config fs hosts

/-- All hosts that are named: those of the file, then those of the lists. -/
def listed (config : Config) (fromFile : List Host) : List Host :=
  fromFile ++ config.hosts.flatMap parseHostList

/-- The hosts that are named, without those whose name is one to leave out. -/
def selected (config : Config) (fromFile : List Host) : List Host :=
  (config.listed fromFile).filter fun host => ¬ Mentions config.exclude host.hostname

theorem exclude_listed : TargetList.exclude (config.listed fromFile) config.excluded
    = config.selected fromFile := by
  unfold TargetList.exclude selected
  refine List.filter_congr fun host _ => ?_
  rw [← List.elem_eq_contains, Bool.eq_iff_iff]
  simp [mentions_iff, excluded]

theorem targets_eq (config : Config) (fromFile : List Host) : config.targets fromFile
    = if config.selected fromFile = [] then .error .noHosts
      else .ok (config.selected fromFile) := by
  rw [targets, ← listed, exclude_listed]
  cases config.selected fromFile with
  | nil => rfl
  | cons host hosts => rfl

/-- The same items give the same targets. -/
theorem targets_congr (named : Recut config.hosts other.hosts)
    (left : Rearranged config.exclude other.exclude) : other.targets = config.targets := by
  funext fromFile
  have same : other.selected fromFile = config.selected fromFile := by
    unfold selected listed
    rw [named.flatMap_parseHostList]
    exact List.filter_congr fun host _ =>
      decide_eq_decide.mpr (not_congr (left.mentions_iff host.hostname)).symm
  rw [targets_eq, targets_eq, same]

theorem Loads.resolveTargets (loads : config.Loads fs fromFile) :
    config.resolveTargets fs = config.targets fromFile := by
  cases loads with
  | unnamed unnamed =>
    rw [Config.resolveTargets, unnamed]
    rfl
  | @named path bytes hosts named found content =>
    have loaded : HostsFile.load fs path = .ok fromFile := by
      rw [HostsFile.load, found]
      simp only [content]
      rfl
    rw [Config.resolveTargets, named]
    simp only [loaded]
    rfl

/-- **The targets of a command line.**

Where the hosts file can be read, or none is named, the targets are its hosts and then the hosts of
the lists, in this order, with their users and with duplicates, without exactly those whose name is
that of a host to leave out. If none is left that is a fault, and it is so only then. For every file
system, also where the hosts file cannot be read, nothing changes when arguments with hosts are
joined with a comma or cut at one, or when those with hosts to leave out are joined, cut, reordered
or repeated. -/
theorem targets_selected (config : Config) (fs : FileSystem) :
    (∀ fromFile, config.Loads fs fromFile →
      (∀ targets, config.resolveTargets fs = .ok targets ↔
        config.selected fromFile = targets ∧ targets ≠ []) ∧
      (config.resolveTargets fs = .error .noHosts ↔ config.selected fromFile = [])) ∧
    ∀ other : Config, other.hostsFile = config.hostsFile → Recut config.hosts other.hosts →
      Rearranged config.exclude other.exclude →
        other.resolveTargets fs = config.resolveTargets fs := by
  constructor
  · intro fromFile loads
    rw [loads.resolveTargets, targets_eq]
    by_cases none : config.selected fromFile = []
    · rw [if_pos none, none]
      refine ⟨fun targets => ⟨fun chosen => (by cases chosen), ?_⟩, iff_of_true rfl rfl⟩
      rintro ⟨rfl, some⟩
      exact absurd rfl some
    · rw [if_neg none]
      refine ⟨fun targets => ⟨?_, ?_⟩, iff_of_false (fun fault => by cases fault) none⟩
      · intro chosen
        obtain rfl := Except.ok.inj chosen
        exact ⟨rfl, none⟩
      · rintro ⟨rfl, -⟩
        rfl
  · intro other file named left
    unfold resolveTargets
    rw [file, targets_congr named left]

/-- Three hosts in a file, one of which is left out under another user. -/
def choosy : Config where
  hosts := ["c,a", " x@d ,,c"]
  hostsFile := some "h"
  exclude := ["eve@a", "d"]

/-- The directory of that file. -/
def choosyFiles : FileSystem :=
  ⟨.directory ⟨0o755, 0, 0⟩
    [([104], .file ⟨0o644, 5, 7⟩ (Utf8.encode "- a\n- bob@b\n- hostname: a\n"))], []⟩

theorem loads_choosy :
    choosy.Loads choosyFiles [⟨"a", none⟩, ⟨"b", some "bob"⟩, ⟨"a", none⟩] := by
  have found : choosyFiles.find [104]
      = .ok (.file ⟨0o644, 5, 7⟩ (Utf8.encode "- a\n- bob@b\n- hostname: a\n")) := by
    refine FileSystem.find_relative (by decide) (by decide) (by decide) (by decide) ?_
    have steps : FilePath.steps [104] = [[104]] := by decide
    rw [steps, FileSystem.walk_name rfl (by decide) (by decide) (by decide) rfl
      (fun _ no => by cases no), FileSystem.walk]
  have read : HostsFile.ofText? "- a\n- bob@b\n- hostname: a\n"
      = some [⟨"a", none⟩, ⟨"b", some "bob"⟩, ⟨"a", none⟩] := by decide +kernel
  refine @Loads.named _ _ "h" (Utf8.encode "- a\n- bob@b\n- hostname: a\n") _ rfl ?_ ?_
  · have path : Utf8.encode "h" = [104] := by decide +kernel
    rw [path, FileSystem.read, found]
  · rw [HostsFile.parse, Utf8.decode?_encode]
    simp only [read]

/-- The hosts `a` and `d` are left out wherever they come from, and the other arguments can as well
be cut and ordered in another way. -/
theorem targets_selected_choosy :
    choosy.Loads choosyFiles [⟨"a", none⟩, ⟨"b", some "bob"⟩, ⟨"a", none⟩] ∧
    choosy.resolveTargets choosyFiles = .ok [⟨"b", some "bob"⟩, ⟨"c", none⟩, ⟨"c", none⟩] ∧
    Recut choosy.hosts ["c", "a, x@d ,,c"] ∧ Rearranged choosy.exclude ["d", "d,eve@a"] ∧
    { choosy with hosts := ["c", "a, x@d ,,c"], exclude := ["d", "d,eve@a"] }.resolveTargets
      choosyFiles = choosy.resolveTargets choosyFiles := by
  have selected : choosy.selected [⟨"a", none⟩, ⟨"b", some "bob"⟩, ⟨"a", none⟩]
      = [⟨"b", some "bob"⟩, ⟨"c", none⟩, ⟨"c", none⟩] := by decide +kernel
  -- `c,a` is cut at its comma, then `a` is joined with the argument behind it
  have cut : Recut choosy.hosts ["c", "a", " x@d ,,c"] :=
    .symm (@Recut.join [] [" x@d ,,c"] "c" "a")
  have join : Recut ["c", "a", " x@d ,,c"] ["c", "a, x@d ,,c"] :=
    @Recut.join ["c"] [] "a" " x@d ,,c"
  have named := cut.trans join
  -- the two arguments change places, then `d` is repeated and joined with `eve@a`
  have turn : Rearranged choosy.exclude ["d", "eve@a"] := .reorder (.swap _ _ _)
  have repeated : Rearranged ["d", "eve@a"] ["d", "d", "eve@a"] := .repeated List.mem_cons_self
  have join : Rearranged ["d", "d", "eve@a"] ["d", "d,eve@a"] :=
    .recut (@Recut.join ["d"] [] "d" "eve@a")
  have left := (turn.trans repeated).trans join
  obtain ⟨chosen, same⟩ := targets_selected choosy choosyFiles
  exact ⟨loads_choosy, ((chosen _ loads_choosy).1 _).mpr ⟨selected, List.cons_ne_nil _ _⟩, named,
    left, same _ rfl named left⟩

end Config

end Fleet
