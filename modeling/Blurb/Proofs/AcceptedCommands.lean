import Blurb.CommandLine.Command

/-! # Accepted command lines

What is known of a command that a command line is understood as. Every word leaves the options with
their values, and so an option that is required has one.

* `Parsed.HasValues` and `takeWords_hasValues` — the options of a command line have values.
* `exists_of_parse` — where a command comes from.
* `AuditCommand.names_of_parse` — an audit names a manifest or an item. -/

namespace Blurb.CommandLine

/-- **Options have values**: only switches stand without. -/
def Parsed.HasValues (spec : CommandSpec) (parsed : Parsed) : Prop :=
  ∀ given ∈ parsed.options, given.2 = [] →
    ∃ option ∈ spec.options, option.name = given.1 ∧ option.arity = .switch

namespace Parsed

variable {spec : CommandSpec} {option : OptionSpec} {parsed next : Parsed}

theorem hasValues_append {given : Text × List Text} {options : List (Text × List Text)}
    (h : parsed.HasValues spec) (hoptions : options = parsed.options ++ [given])
    (hgiven : given.2 = [] →
      ∃ option ∈ spec.options, option.name = given.1 ∧ option.arity = .switch) :
    { parsed with options := options }.HasValues spec := by
  intro other hother
  rcases List.mem_append.1 (hoptions ▸ hother) with hold | hnew
  · exact h other hold
  · rwa [List.mem_singleton.1 hnew]

/-- An option that is settled with a value has one. -/
theorem HasValues.settle {value : Text} (h : parsed.HasValues spec)
    (hnext : parsed.settle option value = .ok next) : next.HasValues spec := by
  have hvalues : (if option.arity = .list then Text.splitOn ',' value else [value]) ≠ [] := by
    split
    · exact Text.splitOn_ne_nil _ _
    · simp
  unfold Parsed.settle at hnext
  dsimp only at hnext
  generalize (if option.arity = .list then Text.splitOn ',' value else [value]) = values
    at hnext hvalues
  split at hnext
  · cases hnext
  · split at hnext
    · cases hnext
    · cases hnext
      exact hasValues_append h rfl fun hempty => absurd hempty hvalues

theorem HasValues.settlePending (h : parsed.HasValues spec)
    (hnext : parsed.settlePending = .ok next) : next.HasValues spec := by
  unfold Parsed.settlePending at hnext
  split at hnext
  · cases hnext
    exact h
  · cases hnext
  · next option value _ =>
    have hcleared : { parsed with pending := none }.HasValues spec := h
    exact hcleared.settle hnext

/-- A switch needs no value. -/
theorem HasValues.switch (h : parsed.HasValues spec) (hmem : option ∈ spec.options)
    (hswitch : option.arity = .switch) (hnext : parsed.switch option = .ok next) :
    next.HasValues spec := by
  unfold Parsed.switch at hnext
  split at hnext
  · cases hnext
  · next settled hsettled =>
    split at hnext
    · cases hnext
    · cases hnext
      exact hasValues_append (h.settlePending hsettled) rfl fun _ => ⟨option, hmem, rfl, hswitch⟩

end Parsed

section Words

variable {spec : CommandSpec} {parsed next : Parsed}

theorem bind_eq_ok {α β : Type} {e : Except UsageError α} {f : α → Except UsageError β} {b : β}
    (h : e.bind f = .ok b) : ∃ a, e = .ok a ∧ f a = .ok b := by
  cases e with
  | error e => cases h
  | ok a => exact ⟨a, rfl, h⟩

/-- A long option leaves the options with their values. -/
theorem longOption_hasValues {body : Text} (h : parsed.HasValues spec)
    (hnext : longOption spec parsed body = .ok next) : next.HasValues spec := by
  unfold longOption at hnext
  dsimp only at hnext
  split at hnext
  · split at hnext
    · cases hnext
    · obtain ⟨_, -, hhelp⟩ := bind_eq_ok hnext
      cases hhelp
  · split at hnext
    · cases hnext
    · next option hoption =>
      have hmem : option ∈ spec.options := List.mem_of_find?_eq_some hoption
      split at hnext
      · cases hnext
      · next hswitch _ => exact h.switch hmem hswitch hnext
      · obtain ⟨settled, hsettled, hvalue⟩ := bind_eq_ok hnext
        exact (h.settlePending hsettled).settle hvalue
      · obtain ⟨settled, hsettled, hpending⟩ := bind_eq_ok hnext
        have hvalues : settled.HasValues spec := h.settlePending hsettled
        cases hpending
        exact hvalues

/-- Short options only ask for help. -/
theorem shortOptions_ne_ok (parsed : Parsed) (body : Text) :
    shortOptions parsed body ≠ .ok next := by
  intro h
  unfold shortOptions at h
  split at h
  · obtain ⟨_, -, hhelp⟩ := bind_eq_ok h
    cases hhelp
  · cases h

/-- A plain word leaves the options with their values. -/
theorem plainWord_hasValues {ended : Bool} {word : Text} (h : parsed.HasValues spec)
    (hnext : plainWord spec parsed ended word = .ok next) : next.HasValues spec := by
  unfold plainWord at hnext
  split at hnext
  · cases hnext
    exact h
  · split at hnext
    · obtain ⟨settled, hsettled, hargument⟩ := bind_eq_ok hnext
      have hvalues : settled.HasValues spec := h.settlePending hsettled
      cases hargument
      exact hvalues
    · cases hnext

/-- **Every word leaves the options with their values.** -/
theorem takeWords_hasValues {ended : Bool} {words : List Text} (h : parsed.HasValues spec)
    (hnext : takeWords spec ended parsed words = .ok next) : next.HasValues spec := by
  fun_induction takeWords spec ended parsed words with
  | case1 => exact h.settlePending hnext
  | case2 parsed word words ih =>
    obtain ⟨taken, htaken, hrest⟩ := bind_eq_ok hnext
    exact ih taken (plainWord_hasValues h htaken) hrest
  | case3 parsed words ih => exact ih h hnext
  | case4 parsed words body _ ih =>
    obtain ⟨taken, htaken, hrest⟩ := bind_eq_ok hnext
    exact ih taken (longOption_hasValues h htaken) hrest
  | case5 parsed words c body _ _ ih =>
    obtain ⟨taken, htaken, -⟩ := bind_eq_ok hnext
    exact absurd htaken (shortOptions_ne_ok parsed (c :: body))
  | case6 parsed words word _ _ _ ih =>
    obtain ⟨taken, htaken, hrest⟩ := bind_eq_ok hnext
    exact ih taken (plainWord_hasValues h htaken) hrest

/-- The options of a command line have their values. -/
theorem parseWords_hasValues {words : List Text} (h : parseWords spec words = .ok next) :
    next.HasValues spec :=
  takeWords_hasValues (fun _ hmem => by simp at hmem) h

/-- An option that is given has a value, unless it is a switch. -/
theorem Parsed.HasValues.isSome_value? {name : String} (h : parsed.HasValues spec)
    (hswitch : ∀ option ∈ spec.options, option.name = name.toList → option.arity ≠ .switch)
    (hhas : parsed.has name = true) : (parsed.value? name).isSome = true := by
  obtain ⟨given, hgiven, hname⟩ := List.any_eq_true.1 hhas
  have hvalues : given.2 ≠ [] := by
    intro hempty
    obtain ⟨option, hoption, hoptionName, harity⟩ := h given hgiven hempty
    exact hswitch option hoption (hoptionName.trans (beq_iff_eq.1 hname)) harity
  obtain ⟨value, rest, hvalue⟩ := List.exists_cons_of_ne_nil hvalues
  have hmem : value ∈ parsed.values name :=
    List.mem_flatMap.2 ⟨given, List.mem_filter.2 ⟨hgiven, hname⟩, hvalue ▸ List.mem_cons_self⟩
  obtain ⟨first, others, hvalues⟩ := List.exists_cons_of_ne_nil (List.ne_nil_of_mem hmem)
  rw [Parsed.value?, hvalues]
  rfl

end Words

/-! ## Commands -/

/-- **Where a command comes from**: the first word names it, and the others are what it accepts. -/
theorem exists_of_parse {words : List Text} {command : Command}
    (h : parse words = .ok command) :
    ∃ name rest spec make parsed, words = name :: rest ∧ commandOf? name = some (spec, make) ∧
      parseWords spec rest = .ok parsed ∧ make parsed = .ok command := by
  unfold parse at h
  split at h
  · cases h
  · next name rest =>
    split at h
    · next spec make hname =>
      obtain ⟨parsed, hparsed, hmake⟩ := bind_eq_ok h
      exact ⟨name, rest, spec, make, parsed, rfl, hname, hparsed, hmake⟩
    · split at h
      · cases h
      · split at h <;> cases h

/-- Audits come from the words of an audit. -/
theorem exists_ofAudit_of_parse {words : List Text} {command : AuditCommand}
    (h : parse words = .ok (.audit command)) :
    ∃ parsed : Parsed, parsed.HasValues auditSpec ∧
      Command.ofAudit parsed = .ok (.audit command) := by
  obtain ⟨name, rest, spec, make, parsed, -, hname, hparsed, hmake⟩ := exists_of_parse h
  unfold commandOf? at hname
  -- what is made of the words of the other commands is no audit
  split at hname
  · cases hname
    cases hmake
  split at hname
  · cases hname
    exact ⟨parsed, parseWords_hasValues hparsed, hmake⟩
  split at hname
  · cases hname
    unfold Command.ofCorrect at hmake
    split at hmake <;> cases hmake
  split at hname
  · cases hname
    unfold Command.ofStyle at hmake
    split at hmake <;> cases hmake
  · cases hname

/-- **An audit names a manifest or an item.** -/
theorem AuditCommand.names_of_parse {words : List Text} {command : AuditCommand}
    (h : parse words = .ok (.audit command)) :
    command.manifest.isSome = true ∨ command.name.isSome = true := by
  obtain ⟨parsed, hvalues, haudit⟩ := exists_ofAudit_of_parse h
  unfold Command.ofAudit at haudit
  split at haudit
  · cases haudit
  · split at haudit
    · cases haudit
    · next hnamed =>
      cases haudit
      simp only [Bool.and_eq_true, Bool.not_eq_true', not_and, Bool.not_eq_false] at hnamed
      by_cases hmanifest : parsed.has "manifest" = true
      · exact .inl (hvalues.isSome_value? (by decide) hmanifest)
      · exact .inr (hvalues.isSome_value? (by decide) (hnamed (by simpa using hmanifest)))

end Blurb.CommandLine
