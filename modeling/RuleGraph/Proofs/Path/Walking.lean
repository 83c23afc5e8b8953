import Mathlib
import RuleGraph.Proofs.Path.NormalForm
import RuleGraph.Rules.Import
import RuleGraph.Rules.Resolve

/-!
# Where paths lead

A normal form leads where its path leads, and of the relative paths, as of the absolute ones, those
that lead to the same places have one normal form. So it does not matter how a directory is spelled
from which a path is read, nor how a file is spelled that is looked up or that imports others.
-/
namespace RuleGraph.Path

/-! ### Walks over normal forms -/

/-- Where components lead from a directory. -/
def walkAll (directory : List String) (cs : List Component) : List String :=
  cs.foldl step directory

theorem walk_eq (directory : List String) (p : Path) :
    p.walk directory = walkAll directory p.components := rfl

theorem walkAll_append (directory : List String) (cs ds : List Component) :
    walkAll directory (cs ++ ds) = walkAll (walkAll directory cs) ds :=
  List.foldl_append

theorem walkAll_names (directory names : List String) :
    walkAll directory (names.map .name) = directory ++ names := by
  induction names generalizing directory with
  | nil => exact (List.append_nil directory).symm
  | cons s names ih =>
    rw [List.map_cons, walkAll, List.foldl_cons, ← walkAll, ih, step, List.append_assoc]
    rfl

theorem walkAll_ups (directory : List String) (ups : Nat) :
    walkAll directory (List.replicate ups .parent) = directory.take (directory.length - ups) := by
  induction ups generalizing directory with
  | zero => simp [walkAll]
  | succ ups ih =>
    rw [List.replicate_succ, walkAll, List.foldl_cons, ← walkAll, ih, step, List.dropLast_eq_take,
      List.take_take, List.length_take]
    congr 1
    omega

/-- One component more on a normal form leads one step further. -/
theorem IsNormal.walkAll_push {cs : List Component} (h : IsNormal cs) {c : Component}
    (hc : c ≠ .root) (directory : List String) :
    walkAll directory (Component.push cs.reverse c).reverse = step (walkAll directory cs) c := by
  cases c with
  | root => exact absurd rfl hc
  | current => simp [Component.push, step]
  | name s => simp [Component.push, walkAll]
  | parent =>
    obtain rfl | ⟨ups, rfl⟩ | ⟨init, s, rfl, -⟩ := h.cases_last
    · rfl
    · have hpush : Component.push (List.replicate ups .parent) .parent =
          List.replicate (ups + 1) .parent := by
        cases ups <;> simp [List.replicate_succ, Component.push]
      rw [List.reverse_replicate, hpush, List.reverse_replicate, List.replicate_succ',
        walkAll_append]
      rfl
    · simp [Component.push, walkAll, step]

/-- Of the components of a path only the first one can be the root. -/
theorem walkAll_normalComponents (p : Path) (directory : List String) :
    walkAll directory (normalComponents p.components) = walkAll directory p.components := by
  have hrest (rest init : List Component) (hinit : IsNormal (normalComponents init))
      (hwalk : walkAll directory (normalComponents init) = walkAll directory init)
      (hproper : ∀ c ∈ rest, c.Proper) :
      walkAll directory (normalComponents (init ++ rest)) = walkAll directory (init ++ rest) := by
    induction rest generalizing init with
    | nil => simpa using hwalk
    | cons c rest ih =>
      obtain ⟨hc, hproper⟩ := List.forall_mem_cons.mp hproper
      rw [List.append_cons]
      refine ih _ ?_ ?_ hproper
      · rw [normalComponents_append]
        exact hinit.push hc.ne_root
      · rw [normalComponents_append, hinit.walkAll_push hc.ne_root, hwalk, walkAll_append]
        rfl
  have hempty : IsNormal [] := @IsNormal.relative 0 []
  obtain ⟨first, rest, heq, hfirst, hproper⟩ := components_eq p
  rw [heq]
  obtain rfl | rfl | rfl | ⟨c, rfl, hc⟩ := hfirst
  · exact hrest rest [] hempty rfl hproper
  · exact hrest rest [.root] (@IsNormal.absolute []) rfl hproper
  · exact hrest rest [.current] hempty rfl hproper
  · exact hrest (c :: rest) [] hempty rfl (List.forall_mem_cons.mpr ⟨hc, hproper⟩)

theorem walk_normalize (p : Path) (directory : List String) :
    p.normalize.walk directory = p.walk directory := by
  rw [walk_eq, components_normalize, walkAll_normalComponents, walk_eq]

/-! ### Relative and absolute paths -/

theorem first?_eq_root_iff {part : List Char} {more : Bool} :
    first? part more = some .root ↔ part = [] ∧ more = true := by
  unfold first? later?
  split_ifs with hpart <;> simp_all

theorem not_root_of_later? {part : List Char} : later? part ≠ some .root := by
  unfold later?
  split_ifs <;> simp

theorem isAbsolute_iff (p : Path) : p.isAbsolute = true ↔ .root ∈ p.components := by
  have hjoin := joinSlash_splitSlash p.text.toList
  unfold isAbsolute components
  cases hsplit : splitSlash p.text.toList with
  | nil => exact absurd hsplit (splitSlash_ne_nil _)
  | cons part parts =>
    have hroot : .root ∉ parts.filterMap later? := fun hmem => by
      obtain ⟨part', -, hlater⟩ := List.mem_filterMap.mp hmem
      exact not_root_of_later? hlater
    have hslash : '/' ∉ part :=
      slash_notMem_of_mem_splitSlash (hsplit ▸ List.mem_cons_self)
    have hfirst : .root ∈ (first? part !parts.isEmpty).toList ++ parts.filterMap later? ↔
        part = [] ∧ parts ≠ [] := by
      rw [List.mem_append, or_iff_left hroot, Option.mem_toList, first?_eq_root_iff]
      simp
    rw [hfirst, ← hjoin, hsplit]
    cases part with
    | nil => cases parts <;> simp [joinSlash]
    | cons c part =>
      have hc : c ≠ '/' := fun hc => hslash (hc ▸ List.mem_cons_self)
      cases parts <;> simp [joinSlash, hc]

theorem root_mem_push {done : List Component} (h : .root ∈ done) (c : Component) :
    .root ∈ Component.push done c := by
  unfold Component.push
  split
  · exact h
  · simpa using h
  · rwa [if_pos h]
  · exact List.mem_cons_of_mem _ h

/-- The root stays in a normal form, and does not come into it. -/
theorem root_mem_normalComponents_iff {cs : List Component} :
    .root ∈ normalComponents cs ↔ .root ∈ cs := by
  refine ⟨mem_of_mem_normalComponents, fun h => ?_⟩
  induction cs using List.reverseRecOn with
  | nil => cases h
  | append_singleton cs c ih =>
    rw [normalComponents_append, List.mem_reverse]
    obtain h | h := List.mem_append.mp h
    · exact root_mem_push (List.mem_reverse.mpr (ih h)) c
    · obtain rfl := List.mem_singleton.mp h
      simp [Component.push]

theorem isAbsolute_normalize (p : Path) : p.normalize.isAbsolute = p.isAbsolute := by
  rw [Bool.eq_iff_iff, isAbsolute_iff, isAbsolute_iff, components_normalize,
    root_mem_normalComponents_iff]

/-! ### Paths that lead to the same places -/

/-- The names of a directory are such as paths are made of. -/
def IsDirectory (directory : List String) : Prop :=
  ∀ s ∈ directory, Component.Proper (.name s)

/-- Paths that are both relative or both absolute and lead to the same places. -/
def Equivalent (p q : Path) : Prop :=
  p.isAbsolute = q.isAbsolute ∧
    ∀ directory, IsDirectory directory → p.walk directory = q.walk directory

/-- There is a name besides the given ones. -/
theorem exists_fresh_name (names : List String) :
    ∃ s, s ∉ names ∧ Component.Proper (.name s) := by
  let long (n : Nat) : List Char := 'a' :: List.replicate n 'a'
  obtain ⟨n, hn⟩ : ∃ n, ∀ s ∈ names, s.toList.length ≤ n :=
    ⟨(names.map fun s => s.toList.length).sum, fun s hs =>
      List.single_le_sum (by simp) _ (List.mem_map_of_mem hs)⟩
  refine ⟨String.ofList (long n), fun hmem => ?_, ?_, ?_⟩
  · have hlen := hn _ hmem
    simp [long] at hlen
  · simp [Component.text, long]
  · simp [Component.text, later?, long]

theorem replicate_append_inj {s : String} {m n : Nat} {as bs : List String} (ha : s ∉ as)
    (hb : s ∉ bs) (h : List.replicate m s ++ as = List.replicate n s ++ bs) : m = n ∧ as = bs := by
  have hcount := congrArg (List.count s) h
  simp only [List.count_append, List.count_replicate_self, List.count_eq_zero_of_not_mem ha,
    List.count_eq_zero_of_not_mem hb, Nat.add_zero] at hcount
  subst hcount
  exact ⟨rfl, List.append_cancel_left h⟩

/-- A normal form is told by where it leads. -/
theorem IsNormal.eq_of_walkAll {cs ds : List Component} (hcs : IsNormal cs) (hds : IsNormal ds)
    (hroot : .root ∈ cs ↔ .root ∈ ds)
    (h : ∀ directory, IsDirectory directory → walkAll directory cs = walkAll directory ds) :
    cs = ds := by
  have hrelative (ups : Nat) (names : List String) :
      .root ∉ List.replicate ups Component.parent ++ names.map .name := by
    simp [List.mem_replicate]
  cases hcs with
  | @absolute names =>
    cases hds with
    | @absolute names' =>
      have hnames : walkAll [] (names.map .name) = walkAll [] (names'.map .name) :=
        h [] (by simp [IsDirectory])
      rw [walkAll_names, walkAll_names] at hnames
      rw [List.nil_append, List.nil_append] at hnames
      rw [hnames]
    | relative => exact absurd (hroot.mp List.mem_cons_self) (hrelative _ _)
  | @relative ups names =>
    cases hds with
    | absolute => exact absurd (hroot.mpr List.mem_cons_self) (hrelative _ _)
    | @relative ups' names' =>
      obtain ⟨s, hs, hproper⟩ := exists_fresh_name (names ++ names')
      obtain ⟨hs, hs'⟩ := not_or.mp (mt List.mem_append.mpr hs)
      -- from so deep a directory neither of the two comes to the root
      have hwalk := h (List.replicate (ups + ups') s) fun s' hs' =>
        List.eq_of_mem_replicate hs' ▸ hproper
      simp only [walkAll_append, walkAll_ups, walkAll_names, List.length_replicate,
        List.take_replicate] at hwalk
      obtain ⟨hups, rfl⟩ := replicate_append_inj hs hs' hwalk
      have : ups = ups' := by omega
      rw [this]

theorem normalize_eq_iff {p q : Path} : p.normalize = q.normalize ↔ p.Equivalent q := by
  refine ⟨fun h => ⟨?_, fun directory _ => ?_⟩, fun ⟨habsolute, hwalk⟩ => ?_⟩
  · rw [← isAbsolute_normalize, h, isAbsolute_normalize]
  · rw [← walk_normalize, h, walk_normalize]
  · have heq : normalComponents p.components = normalComponents q.components := by
      refine (isNormal_normalComponents p).eq_of_walkAll (isNormal_normalComponents q) ?_
        fun directory hdirectory => ?_
      · rw [root_mem_normalComponents_iff, root_mem_normalComponents_iff, ← isAbsolute_iff,
          ← isAbsolute_iff, habsolute]
      · rw [walkAll_normalComponents, walkAll_normalComponents]
        exact hwalk directory hdirectory
    rw [normalize, heq, normalize]

/-! ### Reading a path from a directory -/

theorem splitSlash_append_slash (cs ds : List Char) :
    splitSlash (cs ++ '/' :: ds) = splitSlash cs ++ splitSlash ds := by
  induction cs with
  | nil => simp [splitSlash]
  | cons c cs ih =>
    simp only [List.cons_append, splitSlash, ih]
    split
    · rfl
    · cases hsplit : splitSlash cs with
      | nil => exact absurd hsplit (splitSlash_ne_nil cs)
      | cons s ss => rfl

/-- The components of a text that is not empty, from its parts. -/
theorem components_of_split {text part : List Char} {parts : List (List Char)}
    (h : splitSlash text = part :: parts) (hne : text ≠ []) :
    components ⟨String.ofList text⟩ = (first? part true).toList ++ parts.filterMap later? := by
  have hmore : first? part (!parts.isEmpty) = first? part true := by
    cases parts with
    | nil =>
      have hpart : part ≠ [] := by
        rintro rfl
        exact hne (by rw [← joinSlash_splitSlash text, h]; rfl)
      simp [first?, hpart]
    | cons => rfl
  simp only [components, String.toList_ofList, h, hmore]

/-- Behind a slash there is no first part. -/
theorem components_append_slash (front behind : List Char) :
    components ⟨String.ofList (front ++ '/' :: behind)⟩ =
      components ⟨String.ofList (front ++ ['/'])⟩ ++ (splitSlash behind).filterMap later? := by
  obtain ⟨part, parts, hsplit⟩ := List.exists_cons_of_ne_nil (splitSlash_ne_nil front)
  have hparts (behind : List Char) :
      splitSlash (front ++ '/' :: behind) = part :: (parts ++ splitSlash behind) := by
    rw [splitSlash_append_slash, hsplit, List.cons_append]
  rw [components_of_split (hparts behind) (by simp), components_of_split (hparts []) (by simp),
    List.filterMap_append, List.filterMap_append, List.append_assoc, List.append_assoc]
  rfl

/-- A slash at the end of a path makes no difference. -/
theorem components_concat_slash {text : List Char} (h : text ≠ []) :
    components ⟨String.ofList (text ++ ['/'])⟩ = components ⟨String.ofList text⟩ := by
  obtain ⟨part, parts, hsplit⟩ := List.exists_cons_of_ne_nil (splitSlash_ne_nil text)
  have hslash : splitSlash (text ++ ['/']) = part :: (parts ++ [[]]) := by
    rw [splitSlash_append_slash, hsplit, List.cons_append]
    rfl
  rw [components_of_split hslash (by simp), components_of_split hsplit h, List.filterMap_append]
  simp [later?]

/-- A relative path that is read from a directory comes behind it. -/
theorem components_join {p q : Path} (hp : p.text ≠ "") (hq : q.isAbsolute = false) :
    (p.join q).components = p.components ++ (splitSlash q.text.toList).filterMap later? := by
  have hempty : p.text.isEmpty = false := by simpa using hp
  have hne : p.text.toList ≠ [] := mt String.toList_eq_nil_iff.mp hp
  have hp' : p = ⟨String.ofList p.text.toList⟩ := by simp
  rw [join, hq, hempty]
  simp only [Bool.or_self, Bool.false_eq_true, if_false]
  split
  · rename_i hlast
    obtain ⟨front, hfront⟩ := List.getLast?_eq_some_iff.mp (beq_iff_eq.mp hlast)
    have htext : p.text ++ q.text = String.ofList (front ++ '/' :: q.text.toList) := by
      rw [← String.ofList_toList (s := p.text ++ q.text), String.toList_append, hfront]
      simp
    rw [htext, components_append_slash, ← hfront, ← hp']
  · have htext : p.text ++ "/" ++ q.text =
        String.ofList (p.text.toList ++ '/' :: q.text.toList) := by
      rw [← String.ofList_toList (s := p.text ++ "/" ++ q.text), String.toList_append,
        String.toList_append]
      simp
    rw [htext, components_append_slash, components_concat_slash hne, ← hp']

/-- A dot in front of a relative path counts for nothing. -/
theorem foldl_push_later {q : Path} (hq : q.isAbsolute = false) (done : List Component) :
    ((splitSlash q.text.toList).filterMap later?).foldl Component.push done =
      q.components.foldl Component.push done := by
  have hjoin := joinSlash_splitSlash q.text.toList
  unfold components
  cases hsplit : splitSlash q.text.toList with
  | nil => rfl
  | cons part parts =>
    by_cases hpart : part = []
    · cases parts with
      | nil => simp [hpart, first?, later?]
      | cons next parts =>
        rw [hsplit, hpart, joinSlash, List.nil_append] at hjoin
        · rw [isAbsolute, ← hjoin] at hq
          cases hq
        · simp
    · by_cases hdot : part = ['.']
      · simp [hdot, first?, later?, Component.push]
      · simp only [first?, if_neg hpart, if_neg hdot, List.filterMap_cons]
        cases later? part <;> rfl

/-- Which directory a path is read from matters only up to normal form. -/
theorem normalComponents_join {p q : Path} (hq : q.isAbsolute = false) :
    normalComponents (p.join q).components =
      (q.components.foldl Component.push (normalComponents p.components).reverse).reverse := by
  by_cases hp : p.text = ""
  · have hjoin : p.join q = q := by simp [join, hp]
    have hnil : p.components = [] := by simp [components, hp, splitSlash, first?]
    rw [hjoin, hnil]
    rfl
  · rw [components_join hp hq, normalComponents, List.foldl_append, foldl_push_later hq,
      normalComponents, List.reverse_reverse]

theorem join_eq_of_isAbsolute (p : Path) {q : Path} (hq : q.isAbsolute = true) : p.join q = q := by
  simp [join, hq]

theorem normalize_join_congr {p p' : Path} (q : Path)
    (h : normalComponents p.components = normalComponents p'.components) :
    (p.join q).normalize = (p'.join q).normalize := by
  cases hq : q.isAbsolute with
  | true => rw [join_eq_of_isAbsolute p hq, join_eq_of_isAbsolute p' hq]
  | false => rw [normalize, normalComponents_join hq, h, ← normalComponents_join hq, normalize]

theorem normalComponents_normalize (p : Path) :
    normalComponents p.normalize.components = normalComponents p.components := by
  rw [components_normalize, (isNormal_normalComponents p).normalComponents_eq]

theorem normalize_join (p q : Path) : (p.join q).normalize = (p.normalize.join q).normalize :=
  normalize_join_congr q (normalComponents_normalize p).symm

/-! ### The directory of a file -/

theorem filterMap_dropWhile {α β : Type} (f : α → Option β) (as : List α) :
    (as.dropWhile fun a => (f a).isNone).filterMap f = as.filterMap f := by
  induction as with
  | nil => rfl
  | cons a as ih =>
    cases ha : f a with
    | none => rw [List.dropWhile_cons_of_pos (by simp [ha]), ih, List.filterMap_cons_none ha]
    | some b => rw [List.dropWhile_cons_of_neg (by simp [ha])]

/-- The directory that is spelled with a first part and the parts behind it, given last first. -/
def directory (part : List Char) (before : List (List Char)) : Path :=
  match (before.dropWhile fun s => (later? s).isNone).reverse with
  | [] => ⟨if part = [] then "/" else String.ofList part⟩
  | kept => ⟨String.ofList (joinSlash (part :: kept))⟩

theorem components_directory {part : List Char} {before : List (List Char)}
    (hslash : ∀ s ∈ part :: before, '/' ∉ s) :
    (directory part before).components =
      (first? part true).toList ++ before.reverse.filterMap later? := by
  have hkept := filterMap_dropWhile later? before
  have hkeptslash : ∀ s ∈ (before.dropWhile fun s => (later? s).isNone).reverse, '/' ∉ s :=
    fun s hs => hslash s (List.mem_cons_of_mem _
      ((List.dropWhile_sublist _).subset (List.mem_reverse.mp hs)))
  rw [← List.reverse_inj, ← List.filterMap_reverse, ← List.filterMap_reverse] at hkept
  rw [← hkept, directory]
  generalize (before.dropWhile fun s => (later? s).isNone).reverse = kept at hkeptslash ⊢
  have hpart := hslash part List.mem_cons_self
  cases kept with
  | nil =>
    rw [List.filterMap_nil, List.append_nil]
    by_cases hempty : part = []
    · rw [hempty]
      rfl
    · simp only [if_neg hempty]
      rw [components_of_split (splitSlash_of_slash_notMem hpart) hempty]
      simp
  | cons next kept =>
    have hsplit : splitSlash (joinSlash (part :: next :: kept)) = part :: next :: kept :=
      splitSlash_joinSlash (List.cons_ne_nil _ _) (List.forall_mem_cons.mpr ⟨hpart, hkeptslash⟩)
    refine components_of_split hsplit fun hempty => ?_
    rw [hempty] at hsplit
    cases hsplit

/-- A path to a name has a directory, to which the components in front of the name lead. -/
theorem exists_parent {p : Path} {init : List Component} {s : String}
    (h : p.components = init ++ [.name s]) : ∃ d, p.parent? = some d ∧ d.components = init := by
  unfold components at h
  unfold parent?
  cases hsplit : splitSlash p.text.toList with
  | nil => exact absurd hsplit (splitSlash_ne_nil _)
  | cons part parts =>
    have hslash : ∀ s ∈ part :: parts, '/' ∉ s := fun s hs =>
      slash_notMem_of_mem_splitSlash (hsplit ▸ hs)
    have hlater := filterMap_dropWhile later? parts.reverse
    rw [List.filterMap_reverse, ← List.reverse_eq_iff] at hlater
    rw [hsplit] at h
    simp only at h ⊢
    split
    · -- the first part is the name
      rename_i hnone
      rw [hnone, List.filterMap_nil, List.reverse_nil] at hlater
      rw [← hlater, List.append_nil] at h
      have hfirst : first? part (!parts.isEmpty) = some (.name s) ∧ init = [] := by
        cases hfirst : first? part (!parts.isEmpty) with
        | none => simp [hfirst] at h
        | some c =>
          rw [hfirst] at h
          have hone : [] ++ [c] = init ++ [.name s] := h
          obtain ⟨hinit, hc⟩ := List.append_inj' hone rfl
          exact ⟨congrArg some (List.cons.inj hc).1, hinit.symm⟩
      have hpart : part ≠ [] := by
        rintro rfl
        cases parts <;> cases hfirst.1
      exact ⟨⟨""⟩, if_neg hpart, hfirst.2.symm⟩
    · -- the name is the last one of the parts that have a meaning
      rename_i x before hbefore
      have hparts : x :: before ⊆ parts := fun y hy =>
        List.mem_reverse.mp ((List.dropWhile_sublist _).subset (hbefore ▸ hy))
      obtain ⟨c, hc⟩ : ∃ c, later? x = some c := by
        have hhead := List.head?_dropWhile_not (fun s => (later? s).isNone) parts.reverse
        rw [hbefore] at hhead
        exact Option.isSome_iff_exists.mp (by simpa using hhead)
      have hmore : (!parts.isEmpty) = true := by
        simpa using List.ne_nil_of_mem (hparts List.mem_cons_self)
      rw [hbefore, List.filterMap_cons_some hc, List.reverse_cons] at hlater
      rw [hmore, ← hlater, ← List.append_assoc] at h
      obtain ⟨rfl, -⟩ := List.append_inj' h rfl
      refine ⟨directory part before, ?_, ?_⟩
      · unfold directory
        cases (before.dropWhile fun s => (later? s).isNone).reverse <;> rfl
      · rw [components_directory, List.filterMap_reverse]
        intro s hs
        obtain rfl | hs := List.mem_cons.mp hs
        · exact hslash s List.mem_cons_self
        · exact hslash s (List.mem_cons_of_mem _ (hparts (List.mem_cons_of_mem _ hs)))

/-- The last component is a name. -/
def IsFile (p : Path) : Prop := ∃ init s, p.components = init ++ [.name s]

theorem resolve_eq_join {p d : Path} (h : p.parent? = some d) (target : String) :
    Import.resolve p target = d.join ⟨target⟩ := by
  simp only [Import.resolve, h]
  by_cases habsolute : Path.isAbsolute ⟨target⟩ = true
  · rw [if_pos habsolute, join_eq_of_isAbsolute d habsolute]
  · rw [if_neg habsolute]
    split
    · rename_i hd
      simp [join, hd]
    · rfl

/-- What a file imports depends on the normal form of its path only. -/
theorem IsFile.normalize_resolve {p : Path} (h : p.IsFile) (target : String) :
    (Import.resolve p target).normalize = (Import.resolve p.normalize target).normalize := by
  obtain ⟨init, s, hp⟩ := h
  have hnormal : p.normalize.components = normalComponents init ++ [.name s] := by
    rw [components_normalize, hp, normalComponents_append, Component.push, List.reverse_cons,
      List.reverse_reverse]
    all_goals simp
  obtain ⟨d, hparent, hd⟩ := exists_parent hp
  obtain ⟨d', hparent', hd'⟩ := exists_parent hnormal
  rw [resolve_eq_join hparent, resolve_eq_join hparent']
  refine normalize_join_congr _ ?_
  rw [hd', ← hd, (isNormal_normalComponents d).normalComponents_eq]

/-! ### Files held in memory -/

theorem read_concat (files : List (Path × String)) (p : Path) (text : String) (q : Path) :
    (p.normalize = q.normalize → (Source.ofFiles (files ++ [(p, text)])).read q = .ok text) ∧
    (p.normalize ≠ q.normalize →
      (Source.ofFiles (files ++ [(p, text)])).read q = (Source.ofFiles files).read q) := by
  simp only [Source.ofFiles, Source.lookup, List.reverse_append, List.reverse_singleton,
    List.singleton_append]
  exact ⟨fun h => by rw [List.find?_cons_of_pos (by simpa using h)],
    fun h => by rw [List.find?_cons_of_neg (by simpa using h)]⟩

theorem resolution_congr (files : List (Path × String)) {entries entries' : List Path}
    (h : List.Forall₂ Equivalent entries entries') :
    (Source.ofFiles files).resolution entries = (Source.ofFiles files).resolution entries' := by
  have hkeys : entries.map normalize = entries'.map normalize := by
    induction h with
    | nil => rfl
    | cons hpq _ ih => rw [List.map_cons, List.map_cons, normalize_eq_iff.mpr hpq, ih]
  unfold Source.resolution Source.ofFiles
  simp only [hkeys]

/-! ### Normal forms are canonical -/

/-- A normal form is in normal form, is absolute when its path is, and leads where its path leads;
of two paths that are both relative or both absolute, it is the same text just when they lead to
the same places. A file in memory is therefore found under each spelling of its path and under no
other path, and neither the imports of a file nor what is resolved depend on the spelling. -/
theorem normal_form_canonical (p q : Path) :
    (IsNormal p.normalize.components ∧ p.normalize.isAbsolute = p.isAbsolute ∧
      ∀ directory, p.normalize.walk directory = p.walk directory) ∧
    (p.isAbsolute = q.isAbsolute → (p.normalize = q.normalize ↔
      ∀ directory, IsDirectory directory → p.walk directory = q.walk directory)) ∧
    p.normalize.normalize = p.normalize ∧
    (p.join q).normalize = (p.normalize.join q).normalize ∧
    (∀ files text,
      (p.Equivalent q → (Source.ofFiles (files ++ [(p, text)])).read q = .ok text) ∧
      (¬p.Equivalent q → (Source.ofFiles (files ++ [(p, text)])).read q =
        (Source.ofFiles files).read q)) ∧
    (p.Equivalent q → p.IsFile → q.IsFile → ∀ target,
      (Import.resolve p target).normalize = (Import.resolve q target).normalize) ∧
    (∀ files entries entries', List.Forall₂ Equivalent entries entries' →
      (Source.ofFiles files).resolution entries = (Source.ofFiles files).resolution entries') := by
  refine ⟨⟨?_, isAbsolute_normalize p, walk_normalize p⟩, fun habsolute => ?_,
    normalize_normalize p, normalize_join p q, fun files text => ⟨fun h => ?_, fun h => ?_⟩,
    fun h hp hq target => ?_, fun files _ _ => resolution_congr files⟩
  · rw [components_normalize]
    exact isNormal_normalComponents p
  · exact normalize_eq_iff.trans (and_iff_right habsolute)
  · exact (read_concat files p text q).1 (normalize_eq_iff.mpr h)
  · exact (read_concat files p text q).2 (mt normalize_eq_iff.mp h)
  · rw [hp.normalize_resolve, hq.normalize_resolve, normalize_eq_iff.mpr h]

/-- Spellings of one place, and a name that a double dot cannot cancel. -/
example : (⟨"/../a//b/./../c/"⟩ : Path).normalize = ⟨"/a/c"⟩ ∧
    (⟨"a/../../b"⟩ : Path).normalize = ⟨"../b"⟩ := by decide

end RuleGraph.Path
