import Analytics.Registry.Basic
import Mathlib.Data.Finset.Card

/-!
Runs of a registry. After any calls, in any order, the list of applications that is kept is the one
that the current text holds, and a store is open for each connection string that an application was
served by, and for no other.
-/

namespace Analytics

namespace ApplicationCache

variable {c : ApplicationCache}

def IsFaithful (c : ApplicationCache) : Prop :=
  ∀ applications, c.parsed = some applications → Application.parseList c.raw = .ok applications

theorem ofText_faithful (raw : String) : (ofText raw).IsFaithful := by
  intro applications kept
  cases kept

theorem fill_faithful (faithful : c.IsFaithful) :
    c.fill.1 = Application.parseList c.raw ∧ c.fill.2.raw = c.raw ∧ c.fill.2.IsFaithful := by
  unfold fill
  cases kept : c.parsed with
  | some applications => exact ⟨(faithful applications kept).symm, rfl, faithful⟩
  | none =>
    cases read : Application.parseList c.raw with
    | ok applications =>
      refine ⟨rfl, rfl, ?_⟩
      rintro _ ⟨⟩
      exact read
    | error fault => exact ⟨rfl, rfl, faithful⟩

theorem applications_faithful (faithful : c.IsFaithful) :
    c.applications.1 = Application.parseList c.raw ∧ c.applications.2.raw = c.raw ∧
      c.applications.2.IsFaithful := by
  unfold applications peek
  cases kept : c.parsed with
  | some applications => exact ⟨(faithful applications kept).symm, rfl, faithful⟩
  | none => exact fill_faithful faithful

theorem reload_eq (c : ApplicationCache) (raw : String) : c.reload raw =
    match Application.parseList raw with
    | .ok applications => (.ok applications.length, ⟨raw, some applications⟩)
    | .error fault => (.error fault, c) := rfl

theorem reload_faithful (faithful : c.IsFaithful) (raw : String) :
    (c.reload raw).2.IsFaithful := by
  rw [reload_eq]
  cases read : Application.parseList raw with
  | ok applications =>
    rintro _ ⟨⟩
    exact read
  | error fault => exact faithful

end ApplicationCache

theorem StoreLocation.parse_of_open {canOpen : String → Bool} {url : String}
    {store : StoreLocation} (opened : open? canOpen url = .ok store) : parse url = .ok store := by
  unfold open? at opened
  cases named : parse url with
  | error fault =>
    rw [named] at opened
    cases opened
  | ok location =>
    rw [named] at opened
    cases location with
    | file path =>
      dsimp only at opened
      split at opened
      · exact opened
      · cases opened
    | server url => exact opened
    | memory => exact opened

namespace Resolved

def store? : Resolved → Option StoreLocation
  | .internal => none
  | .long _ store => some store
  | .wide _ store => some store

def connection? (shared : Option String) : Resolved → Option String
  | .internal => none
  | .long table _ => table.databaseUrl.or shared
  | .wide table _ => table.databaseUrl.or shared

theorem store_ofApplication (store : StoreLocation) (app : Application) :
    (ofApplication store app).store? = some store := by cases app <;> rfl

theorem connection_ofApplication (shared : Option String) (store : StoreLocation)
    (app : Application) : (ofApplication store app).connection? shared
      = app.databaseUrl.or shared := by cases app <;> rfl

end Resolved

namespace Registry

/-- A call of a registry. Which paths can be opened may differ from call to call. -/
inductive Call where
  | resolve (canOpen : String → Bool) (insightId : String) (type : InsightType)
  | applications
  | reload (raw : String)

def apply (r : Registry) : Call → Registry
  | .resolve canOpen insightId type => (r.resolve canOpen insightId type).2
  | .applications => r.applications.2
  | .reload raw => (r.reload raw).2

def run (r : Registry) (calls : List Call) : Registry := calls.foldl apply r

def textAfter (text : String) : List Call → String
  | [] => text
  | .reload raw :: rest =>
    match Application.parseList raw with
    | .ok _ => textAfter raw rest
    | .error _ => textAfter text rest
  | _ :: rest => textAfter text rest

def used? (r : Registry) : Call → Option String
  | .resolve canOpen insightId type =>
    match (r.resolve canOpen insightId type).1 with
    | .ok found => found.connection? r.defaultUrl
    | .error _ => none
  | _ => none

def usedBy (r : Registry) : List Call → List String
  | [] => []
  | call :: rest => (r.used? call).toList ++ (r.apply call).usedBy rest

def listed (text insightId : String) (type : InsightType) : Checked Application :=
  match Application.parseList text with
  | .error fault => .error (.applications fault)
  | .ok applications =>
    match find? applications insightId type with
    | none => .error (.applicationNotFound insightId type)
    | some app => .ok app

def served (canOpen : String → Bool) (stores : List (String × StoreLocation)) (url : String)
    (type : InsightType) : Checked StoreLocation :=
  match stores.lookup url with
  | some store => .ok store
  | none => (StoreLocation.open? canOpen url).mapError fun fault => .unavailable type (.pool fault)

def expected (canOpen : String → Bool) (s : WarehouseSetup) (text : String)
    (stores : List (String × StoreLocation)) (insightId : String) (type : InsightType) :
    Checked Resolved :=
  if type = .internal then .ok .internal
  else if s.enabled then
    match listed text insightId type with
    | .error e => .error e
    | .ok app =>
      match app.databaseUrl.or s.defaultUrl with
      | none => .error (.unavailable type .noConnection)
      | some url => (served canOpen stores url type).map (Resolved.ofApplication · app)
  else .error (.unavailable type .disabled)

def addedBy (r : Registry) : Checked Resolved → List (String × StoreLocation)
  | .error _ => []
  | .ok found =>
    match found.connection? r.defaultUrl, found.store? with
    | some url, some store => if (r.pools.lookup url).isSome then [] else [(url, store)]
    | _, _ => []

variable {r : Registry} {s : WarehouseSetup} {text : String} {urls : List String}
  {canOpen : String → Bool} {insightId : String} {type : InsightType}

theorem openStore_eq (canOpen : String → Bool) (r : Registry) (url : String) (type : InsightType) :
    r.openStore canOpen url type = (served canOpen r.pools url type,
      match served canOpen r.pools url type with
      | .ok store =>
        { r with pools := r.pools ++ if (r.pools.lookup url).isSome then [] else [(url, store)] }
      | .error _ => r) := by
  unfold openStore served
  cases r.pools.lookup url with
  | some store => simp
  | none => cases StoreLocation.open? canOpen url <;> simp [Except.mapError]

/-- The registry whose list of applications has been asked for. -/
def asked (r : Registry) : Registry := { r with cache := r.cache.applications.2 }

theorem resolve_eq (faithful : r.cache.IsFaithful) (enabled : r.enabled = s.enabled)
    (shared : r.defaultUrl = s.defaultUrl) (canOpen : String → Bool) (insightId : String)
    (type : InsightType) : r.resolve canOpen insightId type
      = (expected canOpen s r.cache.raw r.pools insightId type,
        let pools := r.pools ++ r.addedBy (expected canOpen s r.cache.raw r.pools insightId type)
        if type ≠ .internal ∧ s.enabled then { r.asked with pools := pools } else r) := by
  have read := (ApplicationCache.applications_faithful faithful).1
  unfold resolve expected
  by_cases own : type = .internal
  · simp [own]
  by_cases off : s.enabled = true
  · simp only [own, enabled, off, if_true, if_false, Bool.not_true, Bool.false_eq_true, ne_eq,
      not_false_eq_true, and_self, applications, listed, asked, read]
    cases Application.parseList r.cache.raw with
    | error fault => simp [Except.mapError, addedBy]
    | ok applications =>
      simp only [Except.mapError]
      cases found : find? applications insightId type with
      | none => simp [addedBy]
      | some app =>
        simp only [shared, openStore_eq, Option.orElse_eq_or]
        cases url : app.databaseUrl.or s.defaultUrl with
        | none => simp [addedBy]
        | some url' =>
          cases answer : served canOpen r.pools url' type with
          | error fault => simp [addedBy, Except.map, answer]
          | ok store =>
            simp [addedBy, Except.map, answer, Resolved.connection_ofApplication,
              Resolved.store_ofApplication, shared, url]
  · simp [own, enabled, off]

/-- What a call can do to the open stores, by the connection string that it uses: nothing, or add the
store that the string names, if none is open for it. -/
inductive Opens (stores : List (String × StoreLocation)) :
    Option String → List (String × StoreLocation) → Prop
  | nothing : Opens stores none stores
  | known {url : String} {store : StoreLocation} (shared : stores.lookup url = some store) :
    Opens stores (some url) stores
  | fresh {url : String} {store : StoreLocation} (closed : stores.lookup url = none)
    (named : StoreLocation.parse url = .ok store) :
    Opens stores (some url) (stores ++ [(url, store)])

theorem expected_served {stores : List (String × StoreLocation)} {found : Resolved}
    (answered : expected canOpen s text stores insightId type = .ok found) :
    found.connection? s.defaultUrl = none ∨ ∃ url store,
      found.connection? s.defaultUrl = some url ∧ found.store? = some store ∧
        served canOpen stores url type = .ok store := by
  unfold expected at answered
  split at answered
  · cases answered
    exact .inl rfl
  split at answered
  · split at answered
    · cases answered
    · rename_i app _
      split at answered
      · cases answered
      · rename_i url reached
        cases given : served canOpen stores url type with
        | error fault =>
          rw [given] at answered
          cases answered
        | ok store =>
          rw [given] at answered
          cases answered
          refine .inr ⟨url, store, ?_, Resolved.store_ofApplication store app, given⟩
          rw [Resolved.connection_ofApplication, reached]
  · cases answered

theorem served_opens {stores : List (String × StoreLocation)} {url : String}
    {store : StoreLocation} (given : served canOpen stores url type = .ok store) :
    Opens stores (some url)
      (stores ++ if (stores.lookup url).isSome then [] else [(url, store)]) := by
  unfold served at given
  cases known : stores.lookup url with
  | some other =>
    rw [Option.isSome_some, if_pos rfl, List.append_nil]
    exact .known known
  | none =>
    rw [known] at given
    rw [Option.isSome_none, if_neg Bool.false_ne_true]
    cases opened : StoreLocation.open? canOpen url with
    | error fault =>
      rw [opened] at given
      cases given
    | ok location =>
      rw [opened] at given
      cases given
      exact .fresh known (StoreLocation.parse_of_open opened)

/-- What any calls leave of a registry, by its setup, the text in force and the connection strings
that have been used. -/
structure IsSound (s : WarehouseSetup) (text : String) (urls : List String) (r : Registry) :
    Prop where
  enabled : r.enabled = s.enabled
  shared : r.defaultUrl = s.defaultUrl
  raw : r.cache.raw = text
  faithful : r.cache.IsFaithful
  /-- Each connection string has one store. -/
  apart : (r.pools.map (·.1)).Nodup
  opened : ∀ url, url ∈ r.pools.map (·.1) ↔ url ∈ urls
  named : ∀ entry ∈ r.pools, StoreLocation.parse entry.1 = .ok entry.2

theorem ofSetup_sound (s : WarehouseSetup) : (ofSetup s).IsSound s s.applications [] where
  enabled := rfl
  shared := rfl
  raw := rfl
  faithful := ApplicationCache.ofText_faithful s.applications
  apart := .nil
  opened := fun _ => Iff.rfl
  named := by simp [ofSetup]

theorem IsSound.opens (sound : r.IsSound s text urls) (call : Call) :
    Opens r.pools (r.used? call) (r.apply call).pools := by
  cases call with
  | applications => exact .nothing
  | reload raw => exact .nothing
  | resolve canOpen insightId type =>
    simp only [used?, apply, resolve_eq sound.faithful sound.enabled sound.shared]
    cases answered : expected canOpen s r.cache.raw r.pools insightId type with
    | error fault => simpa [addedBy, asked, apply_ite] using Opens.nothing
    | ok found =>
      rcases expected_served answered with none | ⟨url, store, reached, stored, given⟩
      · simp only [sound.shared, none, addedBy]
        simpa [asked, apply_ite] using Opens.nothing
      · have outside : type ≠ .internal ∧ s.enabled = true := by
          unfold expected at answered
          split at answered
          · cases answered
            cases reached
          split at answered
          · exact ⟨‹_›, ‹_›⟩
          · cases answered
        simp only [sound.shared, reached, stored, addedBy, if_pos outside]
        exact served_opens given

namespace Opens

variable {stores stores' : List (String × StoreLocation)} {used : Option String} {url : String}

theorem kept (opens : Opens stores used stores') : stores <+: stores' := by
  cases opens with
  | nothing => exact List.prefix_rfl
  | known => exact List.prefix_rfl
  | fresh => exact List.prefix_append _ _

theorem unused (opens : Opens stores none stores') : stores' = stores := by
  cases opens
  rfl

theorem mem_iff (opens : Opens stores used stores') :
    url ∈ stores'.map (·.1) ↔ url ∈ stores.map (·.1) ∨ url ∈ used.toList := by
  cases opens with
  | nothing => simp
  | known shared =>
    obtain ⟨before, behind, rfl, -⟩ := List.lookup_eq_some_iff.mp shared
    simp only [Option.toList_some, List.mem_singleton]
    refine (or_iff_left_of_imp ?_).symm
    rintro rfl
    simp
  | fresh => simp

theorem apart (opens : Opens stores used stores') (once : (stores.map (·.1)).Nodup) :
    (stores'.map (·.1)).Nodup := by
  cases opens with
  | nothing => exact once
  | known => exact once
  | @fresh url _ closed _ =>
    have absent : url ∉ stores.map (·.1) := by
      intro member
      obtain ⟨entry, inside, rfl⟩ := List.mem_map.mp member
      simpa using List.lookup_eq_none_iff.mp closed entry inside
    rw [List.map_append]
    exact once.append (List.nodup_singleton _) (by simpa using absent)

theorem named (opens : Opens stores used stores')
    (own : ∀ entry ∈ stores, StoreLocation.parse entry.1 = .ok entry.2) :
    ∀ entry ∈ stores', StoreLocation.parse entry.1 = .ok entry.2 := by
  cases opens with
  | nothing => exact own
  | known => exact own
  | fresh closed named => exact List.forall_mem_append.mpr ⟨own, by simpa using named⟩

end Opens

theorem IsSound.cached (sound : r.IsSound s text urls) (call : Call) :
    (r.apply call).enabled = s.enabled ∧ (r.apply call).defaultUrl = s.defaultUrl ∧
      (r.apply call).cache.raw = textAfter text [call] ∧ (r.apply call).cache.IsFaithful := by
  have asked := ApplicationCache.applications_faithful sound.faithful
  cases call with
  | applications => exact ⟨sound.enabled, sound.shared, asked.2.1.trans sound.raw, asked.2.2⟩
  | resolve canOpen insightId type =>
    simp only [apply, resolve_eq sound.faithful sound.enabled sound.shared]
    split
    · exact ⟨sound.enabled, sound.shared, asked.2.1.trans sound.raw, asked.2.2⟩
    · exact ⟨sound.enabled, sound.shared, sound.raw, sound.faithful⟩
  | reload raw =>
    refine ⟨sound.enabled, sound.shared, ?_,
      ApplicationCache.reload_faithful sound.faithful raw⟩
    simp only [apply, reload, ApplicationCache.reload_eq, textAfter]
    cases Application.parseList raw with
    | ok applications => rfl
    | error fault => exact sound.raw

theorem IsSound.step (sound : r.IsSound s text urls) (call : Call) :
    (r.apply call).IsSound s (textAfter text [call]) (urls ++ (r.used? call).toList) := by
  obtain ⟨enabled, shared, raw, faithful⟩ := sound.cached call
  have opens := sound.opens call
  exact ⟨enabled, shared, raw, faithful, opens.apart sound.apart,
    fun url => by rw [opens.mem_iff, sound.opened, List.mem_append], opens.named sound.named⟩

theorem textAfter_cons (text : String) (call : Call) (rest : List Call) :
    textAfter text (call :: rest) = textAfter (textAfter text [call]) rest := by
  cases call with
  | reload raw => simp only [textAfter]; cases Application.parseList raw <;> rfl
  | _ => rfl

theorem IsSound.run (sound : r.IsSound s text urls) (calls : List Call) :
    (r.run calls).IsSound s (textAfter text calls) (urls ++ r.usedBy calls) := by
  induction calls generalizing r text urls with
  | nil => simpa [Registry.run, textAfter, usedBy] using sound
  | cons call rest ih =>
    have later := ih (sound.step call)
    rw [← textAfter_cons, List.append_assoc] at later
    exact later

/-- What holds of a registry behind some calls, and of every call that follows. -/
structure IsCoherent (s : WarehouseSetup) (calls : List Call) (r : Registry) : Prop where
  current : r.cache.raw = textAfter s.applications calls
  cached : ∀ applications, r.cache.parsed = some applications →
    Application.parseList r.cache.raw = .ok applications
  uncached : ∀ fault, Application.parseList r.cache.raw = .error fault → r.cache.parsed = none
  lists : r.applications.1 = (Application.parseList r.cache.raw).mapError .applications
  answers : ∀ canOpen insightId type, (r.resolve canOpen insightId type).1
    = expected canOpen s (textAfter s.applications calls) r.pools insightId type
  refused : ∀ raw fault, (r.reload raw).1 = .error fault → (r.reload raw).2 = r
  reloaded : ∀ raw, (r.reload raw).2.pools = r.pools
  lasting : ∀ call url store, r.pools.lookup url = some store →
    (r.apply call).pools.lookup url = some store
  failed : ∀ canOpen insightId type fault, (r.resolve canOpen insightId type).1 = .error fault →
    (r.resolve canOpen insightId type).2.pools = r.pools
  counted : r.storeCount = ((ofSetup s).usedBy calls).toFinset.card
  /-- A store is the one that its connection string names. -/
  named : ∀ url store, r.pools.lookup url = some store → StoreLocation.parse url = .ok store

/-- After any calls, answers are those of the text in force, a refused text changes nothing, and the
open stores are those of the connection strings that have been used, one for each. -/
theorem run_coherent (s : WarehouseSetup) (calls : List Call) :
    ((ofSetup s).run calls).IsCoherent s calls := by
  have sound := (ofSetup_sound s).run calls
  rw [List.nil_append] at sound
  generalize (ofSetup s).run calls = r at sound
  have answer := resolve_eq sound.faithful sound.enabled sound.shared
  refine ⟨sound.raw, sound.faithful, ?uncached, ?lists, ?answers, ?refused, fun _ => rfl, ?lasting,
    ?failed, ?counted, ?named⟩
  case uncached =>
    intro fault unread
    cases kept : r.cache.parsed with
    | none => rfl
    | some applications =>
      rw [sound.faithful applications kept] at unread
      cases unread
  case lists =>
    rw [← (ApplicationCache.applications_faithful sound.faithful).1]
    rfl
  case answers =>
    intro canOpen insightId type
    rw [answer, sound.raw]
  case refused =>
    intro raw fault failed
    simp only [reload, ApplicationCache.reload_eq] at failed ⊢
    cases read : Application.parseList raw with
    | ok applications =>
      rw [read] at failed
      cases failed
    | error reason => rfl
  case lasting =>
    intro call url store known
    exact (sound.opens call).kept.lookup_eq_some known
  case failed =>
    intro canOpen insightId type fault failed
    have opens := sound.opens (.resolve canOpen insightId type)
    simp only [used?, failed] at opens
    exact opens.unused
  case counted =>
    have same : ((ofSetup s).usedBy calls).toFinset = (r.pools.map (·.1)).toFinset := by
      ext url
      rw [List.mem_toFinset, List.mem_toFinset, sound.opened]
    rw [same, List.toFinset_card_of_nodup sound.apart, List.length_map, storeCount]
  case named =>
    intro url store known
    obtain ⟨before, behind, shape, -⟩ := List.lookup_eq_some_iff.mp known
    exact sound.named (url, store) (by simp [shape])

end Registry

end Analytics
