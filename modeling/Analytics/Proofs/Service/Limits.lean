import Analytics.Service.Engine

/-!
The numbers of rows of pages. Main statement: the default of an accepted configuration is at least one
and at most the most, and every listing has a number of rows between one and the most, exactly if one
of the two settings is at least one. Where both are below one, the default is raised to one and the
most is not.
-/

namespace Analytics

namespace Config

variable {given : Environment} {c : Config}

theorem bind_ok {α β : Type} {first : Except ConfigFault α} {next : α → Except ConfigFault β} {b : β}
    (done : first >>= next = .ok b) : ∃ a, first = .ok a ∧ next a = .ok b := by
  cases first with
  | error fault => cases done
  | ok a => exact ⟨a, rfl, done⟩

def setting (given : Environment) (name : String) (absent : Int) : Int :=
  (((lowerNames given).lookup name).bind Digits.toWord?).getD absent

def askedDefault (given : Environment) : Int := setting given "insights_default_limit" 20

def askedMost (given : Environment) : Int := setting given "insights_max_limit" 100

theorem read_setting {name : String} {absent n : Int}
    (done : read (lowerNames given) name absent Digits.toWord? = .ok n) :
    n = setting given name absent := by
  unfold read at done
  unfold setting
  cases found : (lowerNames given).lookup name with
  | none =>
    rw [found] at done
    cases done
    rfl
  | some written =>
    simp only [found] at done
    cases parsed : Digits.toWord? written with
    | none =>
      rw [parsed] at done
      cases done
    | some m =>
      rw [parsed] at done
      cases done
      rw [Option.bind_some, parsed, Option.getD_some]

/-- The limits of an accepted configuration: the default is at least one, and the most is at least what
was asked for as the default. -/
theorem ofEnvironment_limits (accepted : ofEnvironment given = .ok c) :
    c.defaultLimit = max (askedDefault given) 1 ∧
      c.maxLimit = max (askedMost given) (askedDefault given) := by
  unfold ofEnvironment at accepted
  dsimp only at accepted
  split at accepted
  · cases accepted
  obtain ⟨port, -, accepted⟩ := bind_ok accepted
  obtain ⟨pool, -, accepted⟩ := bind_ok accepted
  obtain ⟨enabled, -, accepted⟩ := bind_ok accepted
  obtain ⟨defaultLimit, default, accepted⟩ := bind_ok accepted
  obtain ⟨maxLimit, most, accepted⟩ := bind_ok accepted
  obtain ⟨buckets, -, accepted⟩ := bind_ok accepted
  obtain ⟨timeout, -, accepted⟩ := bind_ok accepted
  obtain ⟨listen, -, accepted⟩ := bind_ok accepted
  split at accepted
  · cases accepted
    have default := read_setting default
    have most := read_setting most
    subst default most
    exact ⟨rfl, rfl⟩
  · cases accepted

def AsksRows (given : Environment) : Prop := 1 ≤ askedDefault given ∨ 1 ≤ askedMost given

instance (given : Environment) : Decidable (AsksRows given) :=
  inferInstanceAs (Decidable (1 ≤ askedDefault given ∨ 1 ≤ askedMost given))

theorem one_le_maxLimit_iff (accepted : ofEnvironment given = .ok c) :
    1 ≤ c.maxLimit ↔ AsksRows given := by
  rw [(ofEnvironment_limits accepted).2]
  unfold AsksRows
  omega

end Config

namespace Engine

theorem ofConfig_ok {canOpen : String → Bool} {c : Config} {e : Engine}
    (started : ofConfig canOpen c = .ok e) :
    e.defaultLimit = c.defaultLimit ∧ e.maxLimit = c.maxLimit := by
  unfold ofConfig at started
  cases opened : StoreLocation.open? canOpen c.databaseUrl with
  | error fault =>
    rw [opened] at started
    cases started
  | ok store =>
    rw [opened] at started
    cases started
    exact ⟨rfl, rfl⟩

theorem pageLimit?_bounds {e : Engine} (some : 1 ≤ e.maxLimit) (asked : Option Int) :
    ∃ n, e.pageLimit? asked = .some n ∧ 1 ≤ n ∧ n ≤ e.maxLimit := by
  refine ⟨min (max (asked.getD e.defaultLimit) 1) e.maxLimit, if_pos some, ?_, ?_⟩
  · exact Int.le_min.mpr ⟨Int.le_max_right _ _, some⟩
  · exact Int.min_le_right _ _

theorem pageLimit?_none {e : Engine} (none : e.maxLimit < 1) (asked : Option Int) :
    e.pageLimit? asked = .none := if_neg (Int.not_le.mpr none)

end Engine

/-- In every accepted configuration the default number of rows is at least one. It is at most the most,
and every request for a listing has a number of rows from one to the most, exactly if the environment
asks for one row at least in one of the two settings. -/
theorem page_limits {given : Config.Environment} {c : Config}
    (accepted : Config.ofEnvironment given = .ok c) :
    1 ≤ c.defaultLimit ∧ (c.defaultLimit ≤ c.maxLimit ↔ Config.AsksRows given) ∧
      ∀ {canOpen : String → Bool} {e : Engine}, Engine.ofConfig canOpen c = .ok e →
        ∀ asked : Option Int, (Config.AsksRows given →
            ∃ n, e.pageLimit? asked = some n ∧ 1 ≤ n ∧ n ≤ c.maxLimit) ∧
          (¬Config.AsksRows given → e.pageLimit? asked = none) := by
  obtain ⟨default, most⟩ := Config.ofEnvironment_limits accepted
  have rows := Config.one_le_maxLimit_iff accepted
  refine ⟨?_, ?_, ?_⟩
  · rw [default]
    exact Int.le_max_right _ _
  · rw [← rows, default, most]
    omega
  · intro canOpen e started asked
    obtain ⟨-, same⟩ := Engine.ofConfig_ok started
    rw [← rows, ← same]
    exact ⟨fun some => Engine.pageLimit?_bounds some asked,
      fun none => Engine.pageLimit?_none (Int.not_le.mp none) asked⟩

theorem exists_started (given : Config.Environment)
    (starts : (match Config.ofEnvironment given with
      | .ok c => (Engine.ofConfig (fun _ => false) c).toOption.isSome
      | .error _ => false) = true) :
    ∃ c e, Config.ofEnvironment given = .ok c ∧ Engine.ofConfig (fun _ => false) c = .ok e := by
  cases accepted : Config.ofEnvironment given with
  | error fault =>
    rw [accepted] at starts
    cases starts
  | ok c =>
    rw [accepted] at starts
    cases started : Engine.ofConfig (fun _ => false) c with
    | error fault =>
      simp only [started] at starts
      cases starts
    | ok e => exact ⟨c, e, rfl, started⟩

def limitedEnvironment (default most : String) : Config.Environment :=
  [("DATABASE_URL", "sqlite::memory:"), ("INSIGHTS_DEFAULT_LIMIT", default),
    ("INSIGHTS_MAX_LIMIT", most)]

theorem page_limits_sample : ∃ c e,
    Config.ofEnvironment (limitedEnvironment "-5" "7") = .ok c ∧
    Engine.ofConfig (fun _ => false) c = .ok e ∧ 1 ≤ c.defaultLimit ∧ c.defaultLimit ≤ c.maxLimit ∧
      ∃ n, e.pageLimit? (some greatestWord) = some n ∧ 1 ≤ n ∧ n ≤ c.maxLimit := by
  obtain ⟨c, e, accepted, started⟩ := exists_started (limitedEnvironment "-5" "7")
    (by decide +kernel)
  have asks : Config.AsksRows (limitedEnvironment "-5" "7") := by decide +kernel
  obtain ⟨positive, ordered, limits⟩ := page_limits accepted
  exact ⟨c, e, accepted, started, positive, ordered.mpr asks, (limits started _).1 asks⟩

/-- With two settings of zero the default is raised to one and the most is not, so that no request has a
number of rows. -/
theorem limits_inverted : ∃ c e,
    Config.ofEnvironment (limitedEnvironment "0" "0") = .ok c ∧
    Engine.ofConfig (fun _ => false) c = .ok e ∧ c.defaultLimit = 1 ∧ c.maxLimit = 0 ∧
      ¬c.defaultLimit ≤ c.maxLimit ∧ ∀ asked, e.pageLimit? asked = none := by
  obtain ⟨c, e, accepted, started⟩ := exists_started (limitedEnvironment "0" "0")
    (by decide +kernel)
  obtain ⟨default, most⟩ := Config.ofEnvironment_limits accepted
  have one : max (Config.askedDefault (limitedEnvironment "0" "0")) 1 = 1 := by decide +kernel
  have zero : max (Config.askedMost (limitedEnvironment "0" "0"))
      (Config.askedDefault (limitedEnvironment "0" "0")) = 0 := by decide +kernel
  rw [one] at default
  rw [zero] at most
  have same := (Engine.ofConfig_ok started).2
  refine ⟨c, e, accepted, started, default, most, by omega, fun asked => ?_⟩
  exact Engine.pageLimit?_none (by omega) asked

end Analytics
