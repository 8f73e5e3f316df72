import Blurb.Proofs.CallRecords
import Mathlib

/-! # Short names of rules

Which names a filter may ask for is said here by the names of the rules alone: the names themselves,
their departments, and the short names that exactly one rule carries. Resolving requested names is
read against that, for any list of names, in any order and with repetitions.

* `RuleNames.StandsFor` — a short name stands for the only rule that carries it.
* `RuleNames.IsAccepted` — the names that a filter may ask for.
* `RuleNames.mem_names_ofList`, `RuleNames.nodup_names_ofList` — the rules of a list, each once.
* `RuleNames.qualify_cases` — a name stays as it is or becomes the rule that it stands for.
* `RuleNames.resolve_ofList` — what is resolved, what to, and what is refused. -/

namespace Blurb

open Std (TransCmp LawfulEqCmp OrientedCmp ReflCmp)

/-! ## The last separator -/

namespace Text

theorem splitLast?_eq_none_iff {separator : Char} {t : Text} :
    splitLast? separator t = none ↔ separator ∉ t := by
  induction t with
  | nil => simp [splitLast?]
  | cons c rest ih =>
    rw [splitLast?, List.mem_cons, not_or, ← ih]
    cases splitLast? separator rest with
    | none => simp [eq_comm]
    | some parts => simp

/-- **Cutting at the last separator**: none stands behind the cut. -/
theorem splitLast?_eq_some_iff {separator : Char} {t before after : Text} :
    splitLast? separator t = some (before, after) ↔
      t = before ++ separator :: after ∧ separator ∉ after := by
  induction t generalizing before after with
  | nil => simp [splitLast?]
  | cons c rest ih =>
    rw [splitLast?]
    cases hrest : splitLast? separator rest with
    | none =>
      have hnone : separator ∉ rest := splitLast?_eq_none_iff.1 hrest
      by_cases hc : c = separator
      · subst hc
        rw [if_pos rfl, Option.some.injEq, Prod.mk.injEq]
        constructor
        · rintro ⟨rfl, rfl⟩
          exact ⟨rfl, hnone⟩
        · rintro ⟨ht, -⟩
          cases before with
          | nil => exact ⟨rfl, (List.cons.inj ht).2⟩
          | cons d before =>
            have hmem : c ∈ rest := by
              rw [(List.cons.inj ht).2]
              simp
            exact absurd hmem hnone
      · rw [if_neg hc]
        constructor
        · intro h
          cases h
        · rintro ⟨ht, -⟩
          have hmem : separator ∈ c :: rest := by
            rw [ht]
            simp
          exact absurd ((List.mem_cons.1 hmem).resolve_left (Ne.symm hc)) hnone
    | some parts =>
      obtain ⟨start, stop⟩ := parts
      obtain ⟨hsplit, hstop⟩ := ih.1 hrest
      rw [Option.some.injEq, Prod.mk.injEq]
      constructor
      · rintro ⟨rfl, rfl⟩
        exact ⟨by rw [hsplit, List.cons_append], hstop⟩
      · rintro ⟨ht, hafter⟩
        cases before with
        | nil =>
          -- the last separator is not the first character
          have hmem : separator ∈ after := by
            rw [← (List.cons.inj ht).2, hsplit]
            simp
          exact absurd hmem hafter
        | cons d before =>
          obtain ⟨rfl, hsame⟩ := List.cons.inj ht
          have hcut := ih.2 ⟨hsame, hafter⟩
          rw [hrest, Option.some.injEq, Prod.mk.injEq] at hcut
          exact ⟨by rw [hcut.1], hcut.2⟩

end Text

namespace RuleNames

/-! ## What a name may stand for -/

/-- **A name has a department**: what stands before its last `/`. -/
def HasDepartment (name department : Text) : Prop :=
  ∃ short, name = department ++ '/' :: short ∧ '/' ∉ short

/-- **A name carries a short name**: what stands behind its last `/`. -/
def Carries (name short : Text) : Prop :=
  ∃ department, name = department ++ '/' :: short ∧ '/' ∉ short

/-- **A department** of some of the names. -/
def IsDepartment (names : List Text) (text : Text) : Prop :=
  ∃ name ∈ names, HasDepartment name text

/-- **A short name stands for a rule** that carries it and is the only one to do so. -/
structure StandsFor (names : List Text) (short full : Text) : Prop where
  /-- The rule has one of the names. -/
  mem : full ∈ names
  /-- It carries the short name. -/
  carries : Carries full short
  /-- No other rule carries it. -/
  unique : ∀ other ∈ names, Carries other short → other = full

/-- **What a filter may ask for**: a name, a department, or a short name that stands for a rule. -/
def IsAccepted (names : List Text) (request : Text) : Prop :=
  request ∈ names ∨ IsDepartment names request ∨ ∃ full, StandsFor names request full

theorem department?_eq_some_iff {name department : Text} :
    department? name = some department ↔ HasDepartment name department := by
  rw [department?, Option.map_eq_some_iff, Prod.exists]
  simp only [Text.splitLast?_eq_some_iff, HasDepartment]
  constructor
  · rintro ⟨_, short, hname, rfl⟩
    exact ⟨short, hname⟩
  · rintro ⟨short, hname⟩
    exact ⟨department, short, hname, rfl⟩

instance (name department : Text) : Decidable (HasDepartment name department) :=
  decidable_of_iff (department? name = some department) department?_eq_some_iff

theorem carries_iff {name short : Text} :
    Carries name short ↔ Text.endsWith ('/' :: short) name = true ∧ '/' ∉ short := by
  rw [Text.endsWith, List.isSuffixOf_iff_suffix, List.IsSuffix]
  constructor
  · rintro ⟨department, hname, hshort⟩
    exact ⟨⟨department, hname.symm⟩, hshort⟩
  · rintro ⟨⟨department, hname⟩, hshort⟩
    exact ⟨department, hname.symm, hshort⟩

instance (name short : Text) : Decidable (Carries name short) :=
  decidable_of_iff _ carries_iff.symm

instance (names : List Text) (text : Text) : Decidable (IsDepartment names text) :=
  inferInstanceAs (Decidable (∃ name ∈ names, HasDepartment name text))

theorem exists_standsFor_iff {names : List Text} {short : Text} :
    (∃ full, StandsFor names short full) ↔
      ∃ full ∈ names, Carries full short ∧ ∀ other ∈ names, Carries other short → other = full := by
  constructor
  · rintro ⟨full, hmem, hcarries, hunique⟩
    exact ⟨full, hmem, hcarries, hunique⟩
  · rintro ⟨full, hmem, hcarries, hunique⟩
    exact ⟨full, hmem, hcarries, hunique⟩

instance (names : List Text) (request : Text) : Decidable (IsAccepted names request) :=
  have : Decidable (∃ full, StandsFor names request full) :=
    decidable_of_iff _ exists_standsFor_iff.symm
  inferInstanceAs (Decidable (_ ∨ _ ∨ _))

/-! ## The rules of a list -/

/-- A name comes before another, character by character. -/
def Before (a b : Text) : Prop := List.compareLex Ord.compare a b = .lt

theorem mem_insertName {name other : Text} {names : List Text} :
    other ∈ insertName name names ↔ other = name ∨ other ∈ names := by
  induction names with
  | nil => simp [insertName]
  | cons first names ih =>
    rw [insertName]
    cases hcompare : List.compareLex Ord.compare name first with
    | lt => simp
    | eq =>
      have hsame : name = first := LawfulEqCmp.eq_of_compare hcompare
      simp [hsame]
    | gt =>
      simp only [List.mem_cons, ih]
      exact or_left_comm

/-- **Adding a name keeps the names in ascending order.** -/
theorem pairwise_insertName (name : Text) {names : List Text}
    (h : names.Pairwise Before) : (insertName name names).Pairwise Before := by
  induction names with
  | nil => simp [insertName]
  | cons first names ih =>
    obtain ⟨hfirst, hnames⟩ := List.pairwise_cons.1 h
    rw [insertName]
    cases hcompare : List.compareLex Ord.compare name first with
    | lt =>
      refine List.pairwise_cons.2 ⟨?_, h⟩
      intro other hother
      rcases List.mem_cons.1 hother with rfl | hother
      · exact hcompare
      · exact TransCmp.lt_trans hcompare (hfirst other hother)
    | eq => exact h
    | gt =>
      refine List.pairwise_cons.2 ⟨?_, ih hnames⟩
      intro other hother
      rcases mem_insertName.1 hother with rfl | hother
      · exact OrientedCmp.lt_of_gt hcompare
      · exact hfirst other hother

theorem mem_names_ofList {names : List Text} {name : Text} :
    name ∈ (ofList names).names ↔ name ∈ names := by
  have hfold : ∀ start : List Text,
      name ∈ names.foldl (fun all name => insertName name all) start ↔
        name ∈ names ∨ name ∈ start := by
    induction names with
    | nil => simp
    | cons first names ih =>
      intro start
      rw [List.foldl_cons, ih, mem_insertName, List.mem_cons, or_left_comm, or_assoc]
  rw [ofList, hfold]
  simp

theorem nodup_names_ofList (names : List Text) : (ofList names).names.Nodup := by
  have hfold : ∀ start : List Text, start.Pairwise Before →
      (names.foldl (fun all name => insertName name all) start).Pairwise Before := by
    induction names with
    | nil => exact fun _ h => h
    | cons first names ih => exact fun start h => ih _ (pairwise_insertName first h)
  refine (hfold [] List.Pairwise.nil).imp ?_
  rintro a b hless rfl
  have hself : List.compareLex Ord.compare a a = .eq := ReflCmp.compare_self
  rw [Before, hself] at hless
  cases hless

/-! ## Qualifying a name -/

section Qualify

variable {names : List Text} {text : Text}

theorem hasDepartment_ofList :
    (ofList names).hasDepartment text = true ↔ IsDepartment names text := by
  simp only [hasDepartment, List.any_eq_true, mem_names_ofList, beq_iff_eq,
    department?_eq_some_iff, IsDepartment]

theorem contains_ofList :
    (ofList names).contains text = true ↔ text ∈ names ∨ IsDepartment names text := by
  rw [contains, Bool.or_eq_true, hasDepartment_ofList, List.contains_iff_mem, mem_names_ofList]

/-- **Exactly one element is left by a filter** on a list without repetitions. -/
theorem filter_eq_singleton_iff {α : Type} {l : List α} (hl : l.Nodup) {p : α → Bool} {only : α} :
    l.filter p = [only] ↔
      only ∈ l ∧ p only = true ∧ ∀ other ∈ l, p other = true → other = only := by
  have hperm : l.filter p = [only] ↔ ∀ a, a ∈ l.filter p ↔ a ∈ [only] := by
    rw [← List.perm_ext_iff_of_nodup (hl.filter p) (List.nodup_singleton only), List.perm_singleton]
  rw [hperm]
  simp only [List.mem_filter, List.mem_singleton]
  constructor
  · intro h
    exact ⟨((h only).2 rfl).1, ((h only).2 rfl).2, fun other hmem hp => (h other).1 ⟨hmem, hp⟩⟩
  · rintro ⟨hmem, hp, hunique⟩ a
    constructor
    · exact fun ha => hunique a ha.1 ha.2
    · rintro rfl
      exact ⟨hmem, hp⟩

/-- The search for the rule that a short name stands for. -/
theorem filter_endsWith_eq_singleton_iff {full : Text} (hslash : '/' ∉ text) :
    (ofList names).names.filter (Text.endsWith ('/' :: text)) = [full] ↔
      StandsFor names text full := by
  have hcarries : ∀ name, Text.endsWith ('/' :: text) name = true ↔ Carries name text := by
    intro name
    rw [carries_iff, and_iff_left hslash]
  rw [filter_eq_singleton_iff (nodup_names_ofList names)]
  simp only [mem_names_ofList, hcarries]
  constructor
  · rintro ⟨hmem, hfull, hunique⟩
    exact ⟨hmem, hfull, hunique⟩
  · rintro ⟨hmem, hfull, hunique⟩
    exact ⟨hmem, hfull, hunique⟩

/-- A name with a `/` or of a department stays as it is. -/
theorem qualify_of_slash_or_department (h : '/' ∈ text ∨ IsDepartment names text) :
    (ofList names).qualify text = text := by
  rw [qualify, if_pos]
  rwa [Bool.or_eq_true, List.contains_iff_mem, hasDepartment_ofList]

/-- **A short name that is no department becomes the rule that it stands for.** -/
theorem qualify_of_standsFor {full : Text} (hdepartment : ¬ IsDepartment names text)
    (h : StandsFor names text full) : (ofList names).qualify text = full := by
  obtain ⟨department, hname, hslash⟩ := h.carries
  rw [qualify, if_neg, (filter_endsWith_eq_singleton_iff hslash).2 h]
  rw [Bool.or_eq_true, List.contains_iff_mem, hasDepartment_ofList]
  exact not_or.2 ⟨hslash, hdepartment⟩

/-- **A name stays as it is or becomes the rule that it stands for.** -/
theorem qualify_cases (names : List Text) (text : Text) :
    (ofList names).qualify text = text ∨ StandsFor names text ((ofList names).qualify text) := by
  by_cases hkept : '/' ∈ text ∨ IsDepartment names text
  · exact .inl (qualify_of_slash_or_department hkept)
  · obtain ⟨hslash, hdepartment⟩ := not_or.1 hkept
    by_cases hfull : ∃ full, StandsFor names text full
    · obtain ⟨full, hfull⟩ := hfull
      rw [qualify_of_standsFor hdepartment hfull]
      exact .inr hfull
    · left
      rw [qualify, if_neg]
      · split
        · next only honly =>
          exact absurd ⟨only, (filter_endsWith_eq_singleton_iff hslash).1 honly⟩ hfull
        · rfl
      · rwa [Bool.or_eq_true, List.contains_iff_mem, hasDepartment_ofList]

theorem qualify_of_not_isAccepted (h : ¬ IsAccepted names text) :
    (ofList names).qualify text = text :=
  (qualify_cases names text).resolve_right fun hfull => h (.inr (.inr ⟨_, hfull⟩))

/-- **A name is known once it is qualified** exactly if a filter may ask for it. -/
theorem contains_qualify_ofList :
    (ofList names).contains ((ofList names).qualify text) = true ↔ IsAccepted names text := by
  rw [contains_ofList]
  rcases qualify_cases names text with hsame | hfull
  · rw [hsame]
    constructor
    · rintro (hmem | hdepartment)
      · exact .inl hmem
      · exact .inr (.inl hdepartment)
    · rintro (hmem | hdepartment | ⟨full, hfull⟩)
      · exact .inl hmem
      · exact .inr hdepartment
      · -- the name is a department, or else it is the rule that it stands for
        by_cases hdepartment : IsDepartment names text
        · exact .inr hdepartment
        · have hname := (qualify_of_standsFor hdepartment hfull).symm.trans hsame
          exact .inl (hname ▸ hfull.mem)
  · exact ⟨fun _ => .inr (.inr ⟨_, hfull⟩), fun _ => .inl hfull.mem⟩

/-- **Qualifying twice is qualifying once.** -/
theorem qualify_qualify (names : List Text) (text : Text) :
    (ofList names).qualify ((ofList names).qualify text) = (ofList names).qualify text := by
  rcases qualify_cases names text with hsame | hfull
  · rw [hsame, hsame]
  · obtain ⟨department, hname, -⟩ := hfull.carries
    refine qualify_of_slash_or_department (.inl ?_)
    rw [hname]
    simp

end Qualify

/-! ## Resolving requested names -/

variable {names requests : List Text}

theorem knowsAll_ofList :
    (ofList names).KnowsAll requests ↔
      ∀ request ∈ requested requests, IsAccepted names request := by
  simp only [KnowsAll, contains_qualify_ofList]

/-- The names that are not known are the requests that are not accepted, as they were asked for. -/
theorem unknown_ofList :
    (ofList names).unknown requests =
      (requested requests).filter fun request => ¬ IsAccepted names request := by
  have hpredicate : ∀ request, (!(ofList names).contains ((ofList names).qualify request)) =
      decide (¬ IsAccepted names request) := by
    intro request
    rw [Bool.eq_iff_iff, Bool.not_eq_true', Bool.eq_false_iff, ne_eq, contains_qualify_ofList,
      decide_eq_true_iff]
  have hkept : ∀ request ∈ (requested requests).filter fun request => ¬ IsAccepted names request,
      (ofList names).qualify request = request := by
    intro request hrequest
    have hrefused := (List.mem_filter.1 hrequest).2
    exact qualify_of_not_isAccepted (of_decide_eq_true hrefused)
  rw [unknown, qualified, List.filter_map]
  simp only [Function.comp_def, hpredicate]
  rw [List.map_congr_left hkept, List.map_id']

/-- **Resolving requested names.** Of the requests, trimmed and without the blank ones, all must be
accepted: names, departments, or short names that stand for a rule. Then each of them is resolved in
its place, to itself or to the rule that it stands for, which is a name or a department. Otherwise
those that are not accepted are told, in order and as they were asked for. Qualifying a name again
changes nothing. -/
theorem resolve_ofList (names requests : List Text) :
    let known := ofList names
    let asked := (requests.map Text.trim).filter fun request => request ≠ []
    ((∃ resolved, known.resolve requests = .ok resolved) ↔
      ∀ request ∈ asked, IsAccepted names request) ∧
    (∀ resolved, known.resolve requests = .ok resolved →
      List.Forall₂ (fun request name => (name ∈ names ∨ IsDepartment names name) ∧
        (name = request ∨ StandsFor names request name)) asked resolved) ∧
    (∀ unknown, known.resolve requests = .error unknown →
      unknown = asked.filter fun request => ¬ IsAccepted names request) ∧
    ∀ text, known.qualify (known.qualify text) = known.qualify text := by
  intro known asked
  have hasked : requested requests = asked := by
    refine List.filter_congr fun request _ => ?_
    cases request <;> rfl
  have hunknown : known.unknown requests =
      asked.filter fun request => ¬ IsAccepted names request := by
    rw [unknown_ofList, hasked]
  have hnone : known.unknown requests = [] ↔ ∀ request ∈ asked, IsAccepted names request := by
    rw [unknown_eq_nil_iff, knowsAll_ofList, hasked]
  have hresolve := resolve_eq known requests
  by_cases hall : ∀ request ∈ asked, IsAccepted names request
  · rw [if_pos (hnone.2 hall), qualified, hasked] at hresolve
    refine ⟨⟨fun _ => hall, fun _ => ⟨_, hresolve⟩⟩, ?_, ?_, qualify_qualify names⟩
    · intro resolved hresolved
      obtain rfl : asked.map known.qualify = resolved :=
        Except.ok.inj (hresolve.symm.trans hresolved)
      rw [List.forall₂_map_right_iff, List.forall₂_same]
      intro request hrequest
      exact ⟨contains_ofList.1 (contains_qualify_ofList.2 (hall request hrequest)),
        qualify_cases names request⟩
    · intro unknown hrefused
      rw [hresolve] at hrefused
      cases hrefused
  · rw [if_neg (mt hnone.1 hall), hunknown] at hresolve
    refine ⟨⟨?_, fun h => absurd h hall⟩, ?_, ?_, qualify_qualify names⟩
    · rintro ⟨resolved, hresolved⟩
      rw [hresolve] at hresolved
      cases hresolved
    · intro resolved hresolved
      rw [hresolve] at hresolved
      cases hresolved
    · intro unknown hrefused
      exact (Except.error.inj (hresolve.symm.trans hrefused)).symm

/-- A short name that two rules carry is refused, and one that a single rule carries is not. -/
example : (ofList ["B/Desc".toList, "A/Desc".toList, "A/Length".toList]).resolve
    [" Length".toList, "Desc".toList, " ".toList, "A".toList] = .error ["Desc".toList] := by decide

end RuleNames

end Blurb
