import RemoteTerminal.Config.Environment
import RemoteTerminal.Proofs.Text.Digits

/-!
# What the environment sets

A variable that is not blank `Sets` its value, without the white space around it. The environment
`Overrides` the url and the timeout of a configuration, and nothing else (`Overrides.unique`),
unless it holds a timeout that is none (`apply_cases`).
-/

namespace RemoteTerminal.Environment

/-- A variable that is not blank, and its value without the white space around it. -/
def Sets (env : Environment) (name value : Text) : Prop :=
  ∃ raw, env.lookup name = some raw ∧ raw.blank = false ∧ raw.trim = value

theorem trimmed?_eq_some_iff {env : Environment} {name value : Text} :
    env.trimmed? name = some value ↔ env.Sets name value := by
  simp only [trimmed?, Sets, Option.filter_eq_some_iff, Option.map_eq_some_iff, Text.blank]
  constructor
  · rintro ⟨⟨raw, held, rfl⟩, shown⟩
    exact ⟨raw, held, by simpa using shown, rfl⟩
  · rintro ⟨raw, held, shown, rfl⟩
    exact ⟨⟨raw, held, rfl⟩, by simpa using shown⟩

theorem trimmed?_eq_none_iff {env : Environment} {name : Text} :
    env.trimmed? name = none ↔ ∀ value, ¬ env.Sets name value := by
  simp only [Option.eq_none_iff_forall_ne_some, ← trimmed?_eq_some_iff, ne_eq]

theorem Sets.unique {env : Environment} {name a b : Text} (ha : env.Sets name a)
    (hb : env.Sets name b) : a = b :=
  Option.some.inj ((trimmed?_eq_some_iff.mpr ha).symm.trans (trimmed?_eq_some_iff.mpr hb))

/-- A configuration before and after the environment counts: a url and a timeout that are set take
the place of those before, a timeout with at least one second, and the rest stays. -/
structure Overrides (env : Environment) (before after : Config) : Prop where
  url_set : ∀ url, env.Sets urlVariable url → after.endpoint.url = some url
  url_kept : (∀ url, ¬ env.Sets urlVariable url) → after.endpoint.url = before.endpoint.url
  timeout_set : ∀ given, env.Sets timeoutVariable given →
    ∃ n < Nat.pow 2 64, given.Spells n ∧ after.endpoint.timeoutSeconds = max 1 n
  timeout_kept : (∀ given, ¬ env.Sets timeoutVariable given) →
    after.endpoint.timeoutSeconds = before.endpoint.timeoutSeconds
  terminal : after.terminal = before.terminal
  display : after.display = before.display

theorem Overrides.unique {env : Environment} {before a b : Config} (ha : env.Overrides before a)
    (hb : env.Overrides before b) : a = b := by
  have url : a.endpoint.url = b.endpoint.url := by
    by_cases set : ∃ url, env.Sets urlVariable url
    · obtain ⟨url, set⟩ := set
      rw [ha.url_set url set, hb.url_set url set]
    · have unset := not_exists.mp set
      rw [ha.url_kept unset, hb.url_kept unset]
  have timeout : a.endpoint.timeoutSeconds = b.endpoint.timeoutSeconds := by
    by_cases set : ∃ given, env.Sets timeoutVariable given
    · obtain ⟨given, set⟩ := set
      obtain ⟨m, -, spelled, hm⟩ := ha.timeout_set given set
      obtain ⟨n, -, spelled', hn⟩ := hb.timeout_set given set
      rw [hm, hn, spelled.unique spelled']
    · have unset := not_exists.mp set
      rw [ha.timeout_kept unset, hb.timeout_kept unset]
  obtain ⟨⟨_, _⟩, _, _⟩ := a
  obtain ⟨⟨_, _⟩, _, _⟩ := b
  simp only [Config.mk.injEq, Endpoint.mk.injEq]
  exact ⟨⟨url, timeout⟩, ha.terminal.trans hb.terminal.symm, ha.display.trans hb.display.symm⟩

/-- A configuration with the url that the environment sets, if any, and a timeout. -/
def overriding (env : Environment) (config : Config) (seconds : Nat) : Config :=
  { config with
    endpoint := {
      url := (env.trimmed? urlVariable).or config.endpoint.url
      timeoutSeconds := seconds } }

theorem apply_eq (env : Environment) (config : Config) :
    env.apply config =
      match env.trimmed? timeoutVariable with
      | none => .ok (env.overriding config config.endpoint.timeoutSeconds)
      | some given =>
        match Text.count? secondsBound given with
        | some seconds => .ok (env.overriding config (max seconds 1))
        | none => .error (.unfit (.timeout given)) := by
  unfold apply overriding
  cases env.trimmed? urlVariable <;> rfl

theorem overriding_overrides {env : Environment} {config : Config} {seconds : Nat}
    (timeout_set : ∀ given, env.Sets timeoutVariable given →
      ∃ n < Nat.pow 2 64, given.Spells n ∧ seconds = max 1 n)
    (timeout_kept : (∀ given, ¬ env.Sets timeoutVariable given) →
      seconds = config.endpoint.timeoutSeconds) :
    env.Overrides config (env.overriding config seconds) where
  url_set url set := by
    rw [overriding, trimmed?_eq_some_iff.mpr set, Option.some_or]
  url_kept unset := by
    rw [overriding, trimmed?_eq_none_iff.mpr unset, Option.none_or]
  timeout_set := timeout_set
  timeout_kept := timeout_kept
  terminal := rfl
  display := rfl

/-- What the environment makes of a configuration: either it overrides it, or it holds a timeout
that is none. -/
theorem apply_cases (env : Environment) (config : Config) :
    (∃ after, env.apply config = .ok after ∧ env.Overrides config after) ∨
      ∃ given, env.apply config = .error (.unfit (.timeout given)) ∧
        env.Sets timeoutVariable given ∧ ¬ ∃ n < Nat.pow 2 64, given.Spells n := by
  rw [apply_eq]
  cases set : env.trimmed? timeoutVariable with
  | none =>
    have unset := trimmed?_eq_none_iff.mp set
    left
    refine ⟨_, rfl, overriding_overrides ?_ ?_⟩
    · intro given held
      exact absurd held (unset given)
    · intro _
      rfl
  | some given =>
    rw [trimmed?_eq_some_iff] at set
    dsimp only
    cases count : Text.count? secondsBound given with
    | none =>
      right
      refine ⟨given, rfl, set, ?_⟩
      rintro ⟨n, small, spelled⟩
      have read : Text.count? secondsBound given = some n :=
        Text.count?_eq_some_iff.mpr ⟨spelled, small⟩
      rw [count] at read
      cases read
    | some n =>
      obtain ⟨spelled, small⟩ := Text.count?_eq_some_iff.mp count
      left
      refine ⟨_, rfl, overriding_overrides ?_ ?_⟩
      · intro other held
        rw [held.unique set]
        exact ⟨n, small, spelled, Nat.max_comm n 1⟩
      · intro unset
        exact absurd set (unset given)

end RemoteTerminal.Environment
