import Mathlib.Data.List.Basic
import RuleGraph.Path.Normal

/-!
# Normal forms of paths are normal

The components of a normal form are in normal form, and are read back from its text as they are.
So a normal form is its own normal form, and its text is the only spelling it has among them.
-/
namespace RuleGraph.Path

/-! ### Parts between slashes -/

theorem slash_notMem_of_mem_splitSlash {cs part : List Char} (h : part ∈ splitSlash cs) :
    '/' ∉ part := by
  induction cs generalizing part with
  | nil =>
    obtain rfl := List.mem_singleton.mp h
    simp
  | cons c cs ih =>
    rw [splitSlash] at h
    split at h
    · obtain rfl | h := List.mem_cons.mp h
      · simp
      · exact ih h
    · rename_i hc
      cases hsplit : splitSlash cs with
      | nil => exact absurd hsplit (splitSlash_ne_nil cs)
      | cons s ss =>
        rw [hsplit] at h ih
        obtain rfl | h := List.mem_cons.mp h
        · have hs := ih List.mem_cons_self
          simp [Ne.symm hc, hs]
        · exact ih (List.mem_cons_of_mem _ h)

theorem splitSlash_of_slash_notMem {part : List Char} (h : '/' ∉ part) :
    splitSlash part = [part] := by
  induction part with
  | nil => rfl
  | cons c cs ih =>
    have hc : c ≠ '/' := fun hc => h (hc ▸ List.mem_cons_self)
    rw [splitSlash, if_neg hc, ih fun hcs => h (List.mem_cons_of_mem _ hcs)]

theorem splitSlash_append {part : List Char} (h : '/' ∉ part) (cs : List Char) :
    splitSlash (part ++ '/' :: cs) = part :: splitSlash cs := by
  induction part with
  | nil => rw [List.nil_append, splitSlash, if_pos rfl]
  | cons c part ih =>
    have hc : c ≠ '/' := fun hc => h (hc ▸ List.mem_cons_self)
    rw [List.cons_append, splitSlash, if_neg hc,
      ih fun hpart => h (List.mem_cons_of_mem _ hpart)]

theorem splitSlash_joinSlash {parts : List (List Char)} (hne : parts ≠ [])
    (h : ∀ part ∈ parts, '/' ∉ part) : splitSlash (joinSlash parts) = parts := by
  induction parts with
  | nil => exact absurd rfl hne
  | cons part parts ih =>
    have hpart := h part List.mem_cons_self
    cases parts with
    | nil => exact splitSlash_of_slash_notMem hpart
    | cons next parts =>
      rw [joinSlash, splitSlash_append hpart,
        ih (List.cons_ne_nil _ _) fun part hmem => h part (List.mem_cons_of_mem _ hmem)]
      simp

/-! ### Components and their texts -/

/-- A component that is read from its own text behind any slash: a double dot, or a name that is
none of dots only and has no slash. -/
structure Component.Proper (c : Component) : Prop where
  slash : '/' ∉ c.text
  later : later? c.text = some c

theorem proper_of_later? {part : List Char} {c : Component} (h : later? part = some c)
    (hslash : '/' ∉ part) : c.Proper := by
  have htext : c.text = part := by
    unfold later? at h
    split at h
    · cases h
    · split at h
      · rename_i hpart
        cases h
        exact hpart.symm
      · cases h
        simp [Component.text]
  exact ⟨htext ▸ hslash, htext ▸ h⟩

theorem Component.Proper.ne_root {c : Component} (h : c.Proper) : c ≠ .root := by
  rintro rfl
  exact absurd h.later (by decide)

/-- The first component may be the root or a single dot; all others are proper. -/
theorem components_eq (p : Path) : ∃ first rest, p.components = first ++ rest ∧
    (first = [] ∨ first = [.root] ∨ first = [.current] ∨ ∃ c, first = [c] ∧ c.Proper) ∧
    ∀ c ∈ rest, c.Proper := by
  have hslash {part : List Char} (h : part ∈ splitSlash p.text.toList) : '/' ∉ part :=
    slash_notMem_of_mem_splitSlash h
  unfold components
  split
  · exact ⟨[], [], rfl, .inl rfl, by simp⟩
  · rename_i part parts hsplit
    rw [hsplit] at hslash
    refine ⟨_, _, rfl, ?_, fun c hc => ?_⟩
    · unfold first?
      split
      · split
        · exact .inr (.inl rfl)
        · exact .inl rfl
      · split
        · exact .inr (.inr (.inl rfl))
        · cases hlater : later? part with
          | none => exact .inl rfl
          | some c =>
            exact .inr (.inr (.inr ⟨c, rfl, proper_of_later? hlater (hslash List.mem_cons_self)⟩))
    · obtain ⟨part', hmem, hlater⟩ := List.mem_filterMap.mp hc
      exact proper_of_later? hlater (hslash (List.mem_cons_of_mem _ hmem))

/-! ### Normal forms -/

theorem mem_of_mem_push {done : List Component} {c d : Component}
    (h : d ∈ Component.push done c) : d ∈ done ∨ d = c := by
  unfold Component.push at h
  split at h
  · exact .inl h
  · exact .inl (List.mem_cons_of_mem _ h)
  · split at h
    · exact .inl h
    · exact (List.mem_cons.mp h).symm
  · exact (List.mem_cons.mp h).symm

/-- Nothing is in a normal form that was not there before. -/
theorem mem_of_mem_normalComponents {cs : List Component} {d : Component}
    (h : d ∈ normalComponents cs) : d ∈ cs := by
  have hfold (cs done : List Component) (h : d ∈ cs.foldl Component.push done) :
      d ∈ done ∨ d ∈ cs := by
    induction cs generalizing done with
    | nil => exact .inl h
    | cons c cs ih =>
      obtain h | h := ih _ h
      · obtain h | rfl := mem_of_mem_push h
        · exact .inl h
        · exact .inr List.mem_cons_self
      · exact .inr (List.mem_cons_of_mem _ h)
  obtain h | h := hfold cs [] (List.mem_reverse.mp h)
  · cases h
  · exact h

theorem IsNormal.concat_name {cs : List Component} (h : IsNormal cs) (s : String) :
    IsNormal (cs ++ [.name s]) := by
  cases h with
  | @absolute names => simpa using @IsNormal.absolute (names ++ [s])
  | @relative ups names => simpa using @IsNormal.relative ups (names ++ [s])

/-- A normal form is a double dot or the root in front, or ends with a name. -/
theorem IsNormal.cases_last {cs : List Component} (h : IsNormal cs) :
    cs = [.root] ∨ (∃ ups, cs = List.replicate ups .parent) ∨
      ∃ init s, cs = init ++ [.name s] ∧ IsNormal init := by
  cases h with
  | @absolute names =>
    obtain rfl | ⟨init, s, rfl⟩ := List.eq_nil_or_concat' names
    · exact .inl rfl
    · exact .inr (.inr ⟨.root :: init.map .name, s, by simp, .absolute⟩)
  | @relative ups names =>
    obtain rfl | ⟨init, s, rfl⟩ := List.eq_nil_or_concat' names
    · exact .inr (.inl ⟨ups, by simp⟩)
    · exact .inr (.inr ⟨_, s, by simp, @IsNormal.relative ups init⟩)

/-- One component more, which is not the root, leads from normal form to normal form. -/
theorem IsNormal.push {cs : List Component} (h : IsNormal cs) {c : Component} (hc : c ≠ .root) :
    IsNormal (Component.push cs.reverse c).reverse := by
  cases c with
  | root => exact absurd rfl hc
  | current => simpa [Component.push] using h
  | name s => simpa [Component.push] using h.concat_name s
  | parent =>
    obtain rfl | ⟨ups, rfl⟩ | ⟨init, s, rfl, hinit⟩ := h.cases_last
    · simpa [Component.push] using h
    · have hpush : Component.push (List.replicate ups .parent) .parent =
          List.replicate (ups + 1) .parent := by
        cases ups <;> simp [List.replicate_succ, Component.push]
      rw [List.reverse_replicate, hpush, List.reverse_replicate]
      simpa using @IsNormal.relative (ups + 1) []
    · simpa [Component.push] using hinit

/-- The normal form of any path is normal. -/
theorem isNormal_normalComponents (p : Path) : IsNormal (normalComponents p.components) := by
  have hrest (rest init : List Component) (hinit : IsNormal (normalComponents init))
      (hproper : ∀ c ∈ rest, c.Proper) : IsNormal (normalComponents (init ++ rest)) := by
    induction rest generalizing init with
    | nil => simpa using hinit
    | cons c rest ih =>
      rw [List.append_cons]
      refine ih _ ?_ fun c hc => hproper c (List.mem_cons_of_mem _ hc)
      rw [normalComponents_append]
      exact hinit.push (hproper c List.mem_cons_self).ne_root
  have hempty : IsNormal [] := @IsNormal.relative 0 []
  obtain ⟨first, rest, heq, hfirst, hproper⟩ := components_eq p
  rw [heq]
  refine hrest rest first ?_ hproper
  obtain rfl | rfl | rfl | ⟨c, rfl, hc⟩ := hfirst
  · exact hempty
  · exact @IsNormal.absolute []
  · exact hempty
  · exact hempty.push hc.ne_root

/-- A normal form is left as it is. -/
theorem IsNormal.normalComponents_eq {cs : List Component} (h : IsNormal cs) :
    normalComponents cs = cs := by
  have hnames (names : List String) (done : List Component) :
      (names.map Component.name).foldl Component.push done =
        (names.map Component.name).reverse ++ done := by
    induction names generalizing done with
    | nil => rfl
    | cons s names ih => simp [Component.push, ih]
  have hups (ups k : Nat) : (List.replicate ups Component.parent).foldl Component.push
      (List.replicate k .parent) = List.replicate (k + ups) .parent := by
    induction ups generalizing k with
    | zero => rfl
    | succ ups ih =>
      have hpush : Component.push (List.replicate k .parent) .parent =
          List.replicate (k + 1) .parent := by
        cases k <;> simp [List.replicate_succ, Component.push]
      rw [List.replicate_succ, List.foldl_cons, hpush, ih]
      congr 1
      omega
  cases h with
  | @absolute names => simp [normalComponents, Component.push, hnames]
  | @relative ups names =>
    have hfold := hups ups 0
    rw [List.replicate_zero, Nat.zero_add] at hfold
    simp [normalComponents, List.foldl_append, hfold, hnames]

/-! ### Spelling a normal form -/

theorem Component.Proper.first?_text {c : Component} (h : c.Proper) (more : Bool) :
    first? c.text more = some c := by
  have hlater := h.later
  unfold later? at hlater
  split at hlater
  · cases hlater
  · rename_i hpart
    simp only [Bool.or_eq_true, decide_eq_true_eq, not_or] at hpart
    rw [first?, if_neg hpart.1, if_neg hpart.2, h.later]

theorem filterMap_later?_text {cs : List Component} (h : ∀ c ∈ cs, c.Proper) :
    (cs.map Component.text).filterMap later? = cs := by
  rw [List.filterMap_map]
  conv_rhs => rw [← List.filterMap_some (l := cs)]
  exact List.filterMap_congr fun c hc => (h c hc).later

/-- Proper components behind a first one are read back from their spelling. -/
theorem components_joinSlash {c : Component} {cs : List Component} (hc : '/' ∉ c.text)
    (hcs : ∀ c ∈ cs, c.Proper) :
    components ⟨String.ofList (joinSlash ((c :: cs).map Component.text))⟩ =
      (first? c.text !cs.isEmpty).toList ++ cs := by
  have hslash : ∀ part ∈ (c :: cs).map Component.text, '/' ∉ part := by
    intro part hpart
    obtain ⟨d, hd, rfl⟩ := List.mem_map.mp hpart
    obtain rfl | hd := List.mem_cons.mp hd
    · exact hc
    · exact (hcs d hd).slash
  have hsplit := splitSlash_joinSlash (List.cons_ne_nil _ _) hslash
  simp only [components, List.map_cons, String.toList_ofList, hsplit,
    filterMap_later?_text hcs, List.isEmpty_map]

theorem ofComponents_eq {cs : List Component} (h : cs ≠ [.root]) :
    ofComponents cs = ⟨String.ofList (joinSlash (cs.map Component.text))⟩ := by
  unfold ofComponents
  split
  · exact absurd rfl h
  · rfl

/-- A normal form with proper names is read back from its spelling. -/
theorem components_ofComponents {cs : List Component} (h : IsNormal cs)
    (hproper : ∀ s, .name s ∈ cs → Component.Proper (.name s)) :
    (ofComponents cs).components = cs := by
  have hparent : Component.Proper .parent := ⟨by decide, by decide⟩
  cases h with
  | @absolute names =>
    have hnames : ∀ c ∈ names.map Component.name, c.Proper := by
      intro c hc
      obtain ⟨s, -, rfl⟩ := List.mem_map.mp hc
      exact hproper s (List.mem_cons_of_mem _ hc)
    cases names with
    | nil => decide
    | cons s names =>
      rw [ofComponents_eq (by simp), components_joinSlash (by simp [Component.text]) hnames]
      rfl
  | @relative ups names =>
    have hall : ∀ c ∈ List.replicate ups Component.parent ++ names.map .name, c.Proper := by
      intro c hc
      obtain hup | hname := List.mem_append.mp hc
      · exact List.eq_of_mem_replicate hup ▸ hparent
      · obtain ⟨s, -, rfl⟩ := List.mem_map.mp hname
        exact hproper s hc
    generalize List.replicate ups Component.parent ++ names.map .name = cs at hall
    cases cs with
    | nil => decide
    | cons c cs =>
      have hc := hall c List.mem_cons_self
      have hne : c :: cs ≠ [.root] := fun heq => hc.ne_root (List.cons.inj heq).1
      rw [ofComponents_eq hne, components_joinSlash hc.slash fun d hd =>
        hall d (List.mem_cons_of_mem _ hd), hc.first?_text]
      rfl

theorem components_normalize (p : Path) :
    p.normalize.components = normalComponents p.components := by
  refine components_ofComponents (isNormal_normalComponents p) fun s hs => ?_
  obtain ⟨first, rest, heq, hfirst, hproper⟩ := components_eq p
  have hmem := mem_of_mem_normalComponents hs
  rw [heq, List.mem_append] at hmem
  obtain hmem | hmem := hmem
  · obtain rfl | rfl | rfl | ⟨c, rfl, hc⟩ := hfirst
    · cases hmem
    · simp at hmem
    · simp at hmem
    · exact List.mem_singleton.mp hmem ▸ hc
  · exact hproper _ hmem

theorem normalize_normalize (p : Path) : p.normalize.normalize = p.normalize := by
  rw [normalize, components_normalize, (isNormal_normalComponents p).normalComponents_eq, normalize]

/-- Normal forms that are the same path are spelled alike. -/
theorem normalize_eq_of_same {p q : Path} (h : p.normalize.same q.normalize = true) :
    p.normalize = q.normalize := by
  have hcomponents := same_iff.mp h
  rw [components_normalize, components_normalize] at hcomponents
  rw [normalize, hcomponents, normalize]

end RuleGraph.Path
