import Mathlib.Data.List.Induction
import LuauDisassembler.Proofs.Settings.Update
import LuauDisassembler.Session

/-!
# What a session remembers

The state of a session is read off the list of its steps.  Each setting has the value that the last
step with an effect on it has given: an update that writes the setting, accepted or not, or a reset,
which gives the default.  The words are those that were loaded last.  What a step loads may depend on
the steps before it, since bytes are read in the byte order that is in force.

`Latest` is this law for any effect of steps, and `latest_iff` says that one induction over the list
establishes it: it is enough that a step with an effect puts its value into the state, and that any
other step leaves the value there alone.

* `Session.latest_iff`: the law of the last effect.
* `Session.value_step_of_sets`, `Session.value_step_of_not_sets`: a step and one setting.
* `Session.words_run_of_loads`, `Session.words_run_of_not_loads`: a step and the words.
* `Session.step_update_eq_error_iff`, `Session.step_eq_of_error`: steps that fail.
* `Session.run_eq_iff_latest`: the state after a list of steps.
-/

namespace LuauDisassembler.Session

/-! ### The last effect -/

section

variable {σ α : Type} {effect : List σ → σ → α → Prop} {initial : α}

/-- None of the steps `after`, which follow the steps `before`, has an effect. -/
def Idle (effect : List σ → σ → α → Prop) (before after : List σ) : Prop :=
  ∀ mid t rest a, after = mid ++ t :: rest → ¬ effect (before ++ mid) t a

/-- The value that the last step with an effect has given, or the initial one if there is no such
step.  An effect `effect before t a` of the step `t` may depend on the steps before it. -/
inductive Latest (effect : List σ → σ → α → Prop) (initial : α) (ts : List σ) : α → Prop
  | given {before after : List σ} {t : σ} {a : α} (hts : ts = before ++ t :: after)
      (h : effect before t a) (hafter : Idle effect (before ++ [t]) after) :
      Latest effect initial ts a
  | initial (h : Idle effect [] ts) : Latest effect initial ts initial

theorem idle_nil (before : List σ) : Idle effect before [] := by
  intro mid t rest a h
  cases mid <;> cases h

theorem idle_concat_iff {before after : List σ} {t : σ} : Idle effect before (after ++ [t]) ↔
    Idle effect before after ∧ ∀ a, ¬ effect (before ++ after) t a := by
  constructor
  · intro h
    refine ⟨fun mid u rest a hmid => ?_, fun a => h after t [] a rfl⟩
    exact h mid u (rest ++ [t]) a (by rw [hmid, List.append_assoc, List.cons_append])
  · rintro ⟨hafter, ht⟩ mid u rest a hmid
    rcases List.eq_nil_or_concat rest with rfl | ⟨rest, w, rfl⟩
    · obtain ⟨rfl, hu⟩ := List.append_inj' hmid rfl
      obtain rfl := List.singleton_inj.1 hu
      exact ht a
    · rw [List.concat_eq_append, ← List.cons_append, ← List.append_assoc] at hmid
      obtain ⟨rfl, -⟩ := List.append_inj' hmid rfl
      exact hafter mid u rest a rfl

/-- **The law of the last effect.**  A step with an effect puts its value into the state, and any
other step leaves the value there alone; then the state holds what the last effect has given. -/
theorem latest_iff (view : List σ → α) (hnil : view [] = initial)
    (hgiven : ∀ ts t a, effect ts t a → view (ts ++ [t]) = a)
    (hkept : ∀ ts t, (∀ a, ¬ effect ts t a) → view (ts ++ [t]) = view ts) (ts : List σ) (a : α) :
    Latest effect initial ts a ↔ view ts = a := by
  constructor
  · intro h
    -- behind the last effect nothing changes the view any more
    have hidle : ∀ before after, Idle effect before after → view (before ++ after) = view before := by
      intro before after
      induction after using List.reverseRecOn with
      | nil => intro _; rw [List.append_nil]
      | append_singleton after t ih =>
        intro h
        obtain ⟨hafter, ht⟩ := idle_concat_iff.1 h
        rw [← List.append_assoc, hkept _ t ht, ih hafter]
    cases h with
    | @given before after t a hts h hafter =>
      rw [hts, ← List.singleton_append, ← List.append_assoc, hidle _ _ hafter, hgiven before t a h]
    | initial h =>
      have := hidle [] ts h
      rw [List.nil_append] at this
      rw [this, hnil]
  · rintro rfl
    induction ts using List.reverseRecOn with
    | nil =>
      rw [hnil]
      exact .initial (idle_nil [])
    | append_singleton ts t ih =>
      by_cases ht : ∃ a, effect ts t a
      · obtain ⟨a, ha⟩ := ht
        rw [hgiven ts t a ha]
        exact .given rfl ha (idle_nil _)
      · have ht := not_exists.1 ht
        rw [hkept ts t ht]
        cases ih with
        | @given before after u _ hts h hafter =>
          refine .given (by rw [hts, List.append_assoc, List.cons_append]) h ?_
          refine idle_concat_iff.2 ⟨hafter, ?_⟩
          rwa [List.append_assoc, List.singleton_append, ← hts]
        | initial h => exact .initial (idle_concat_iff.2 ⟨h, ht⟩)

end

/-! ### Effects of steps -/

/-- The step gives the value `v` to the setting `k`. -/
inductive Step.Sets (k : Setting) : Step → Value → Prop
  | update {changes : Changes} {v : Value} (h : changes.Writes k v) : Sets k (.update changes) v
  | reset : Sets k .reset (({} : Settings).value k)

/-- The value that the steps give to a setting in the end. -/
def SettingIs (k : Setting) : List Step → Value → Prop :=
  Latest (fun _ => Step.Sets k) (({} : Settings).value k)

/-- The step, coming after the steps `before`, loads words. -/
inductive Loads (before : List Step) : Step → List Int → Prop
  | bytes {order : ByteOrder} {data : List UInt8} {ws : List Int}
      (horder : SettingIs .byteOrder before (.string order.name)) (h : order.words data = .ok ws) :
      Loads before (.loadBytes data) ws
  | dump {text : String} {ws : List Int} (h : Dump.parse text = .ok ws) :
      Loads before (.loadDump text) ws

/-- The words that the steps load in the end. -/
def WordsAre : List Step → List Int → Prop := Latest Loads []

/-! ### One step -/

section

variable {s : Session} {t : Step} {k : Setting} {v : Value}

theorem step_update_eq (s : Session) (changes : Changes) :
    (s.step (.update changes)).1 = { s with settings := (s.settings.update changes).1 } := by
  rw [step]
  cases s.settings.update changes with
  | mk settings failure => cases failure <;> rfl

theorem load_error_eq (s : Session) (e : DecodeError) :
    s.load (.error e) = (s, .error (.decode e)) := rfl

theorem value_step_of_sets (h : Step.Sets k t v) : (s.step t).1.settings.value k = v := by
  cases h with
  | update h => rw [step_update_eq, Settings.value_update_of_writes h]
  | reset => rfl

theorem settings_load (s : Session) (read : Except DecodeError (List Int)) :
    (s.load read).1.settings = s.settings := by
  cases read <;> rfl

/-- Only updates and resets change settings. -/
theorem value_step_of_not_sets (h : ∀ v, ¬ Step.Sets k t v) :
    (s.step t).1.settings.value k = s.settings.value k := by
  cases t with
  | update changes =>
    rw [step_update_eq]
    exact Settings.value_update_of_not_writes fun v hv => h v (.update hv)
  | reset => exact absurd .reset (h _)
  | loadBytes data => rw [step, settings_load]
  | loadDump text => rw [step, settings_load]
  | showSettings | showAt | showAll => rfl

end

/-! ### Runs -/

theorem run_concat (s : Session) (ts : List Step) (t : Step) :
    (s.run (ts ++ [t])).1 = ((s.run ts).1.step t).1 := by
  induction ts generalizing s with
  | nil => rfl
  | cons u ts ih => exact ih _

/-- **A setting after a list of steps** has the value that it was given last. -/
theorem settingIs_iff (k : Setting) (ts : List Step) (v : Value) :
    SettingIs k ts v ↔ (run {} ts).1.settings.value k = v := by
  refine latest_iff (fun ts => (run {} ts).1.settings.value k) rfl ?_ ?_ ts v
  · intro ts t v h
    rw [run_concat, value_step_of_sets h]
  · intro ts t h
    rw [run_concat, value_step_of_not_sets h]

theorem byteOrder_run_iff (ts : List Step) (order : ByteOrder) :
    SettingIs .byteOrder ts (.string order.name) ↔ (run {} ts).1.settings.byteOrder = order := by
  rw [settingIs_iff, Settings.value]
  constructor
  · intro h
    exact ByteOrder.name_injective (Value.string.inj h)
  · intro h
    rw [h]

theorem words_run_of_loads {ts : List Step} {t : Step} {ws : List Int} (h : Loads ts t ws) :
    (run {} (ts ++ [t])).1.words = ws := by
  rw [run_concat]
  cases h with
  | bytes horder h =>
    rw [byteOrder_run_iff] at horder
    rw [step, horder, h]
    rfl
  | dump h =>
    rw [step, h]
    rfl

theorem words_run_of_not_loads {ts : List Step} {t : Step} (h : ∀ ws, ¬ Loads ts t ws) :
    (run {} (ts ++ [t])).1.words = (run {} ts).1.words := by
  rw [run_concat]
  cases t with
  | update changes => rw [step_update_eq]
  | loadBytes data =>
    cases hread : (run {} ts).1.settings.byteOrder.words data with
    | ok ws => exact absurd (.bytes ((byteOrder_run_iff ts _).2 rfl) hread) (h ws)
    | error e => rw [step, hread, load_error_eq]
  | loadDump text =>
    cases hread : Dump.parse text with
    | ok ws => exact absurd (.dump hread) (h ws)
    | error e => rw [step, hread, load_error_eq]
  | reset | showSettings | showAt | showAll => rfl

/-- **The words after a list of steps** are those that were loaded last. -/
theorem wordsAre_iff (ts : List Step) (ws : List Int) :
    WordsAre ts ws ↔ (run {} ts).1.words = ws :=
  latest_iff (fun ts => (run {} ts).1.words) rfl (fun _ _ _ => words_run_of_loads)
    (fun _ _ => words_run_of_not_loads) ts ws

/-- A step that fails changes nothing, unless it is an update. -/
theorem step_eq_of_error {s : Session} {t : Step} {e : Failure}
    (ht : ∀ changes, t ≠ .update changes) (h : (s.step t).2 = .error e) : (s.step t).1 = s := by
  cases t with
  | update changes => exact absurd rfl (ht changes)
  | reset => cases h
  | loadBytes data =>
    rw [step] at h ⊢
    cases hread : s.settings.byteOrder.words data with
    | ok ws =>
      rw [hread] at h
      cases h
    | error e => rfl
  | loadDump text =>
    rw [step] at h ⊢
    cases hread : Dump.parse text with
    | ok ws =>
      rw [hread] at h
      cases h
    | error e => rfl
  | showSettings | showAt | showAll => rfl

/-- An update fails at the first value that is refused, and keeps what it has done before. -/
theorem step_update_eq_error_iff {s s' : Session} {changes : Changes} {e : Failure} :
    s.step (.update changes) = (s', .error e) ↔
      ∃ k v, changes.StopsAt k v ∧ e = .setting (k.refusal v) ∧ s'.words = s.words ∧
        ∀ k', s'.settings.value k' =
          if k'.position < k.position then (changes.given k').getD (s.settings.value k')
          else s.settings.value k' := by
  obtain ⟨settings', words'⟩ := s'
  rw [step]
  cases hrun : s.settings.update changes with
  | mk settings failure =>
    cases failure with
    | none =>
      obtain ⟨haccepts, -⟩ := Settings.update_eq_accepted_iff.1 hrun
      simp only [Prod.mk.injEq, reduceCtorEq, and_false, false_iff]
      rintro ⟨k, v, hstops, -⟩
      exact hstops.not_accepts (haccepts k v hstops.given_eq)
    | some e₀ =>
      constructor
      · intro h
        obtain ⟨k, v, hstops, rfl, hvalue⟩ := Settings.update_eq_refused_iff.1 hrun
        cases h
        exact ⟨k, v, hstops, rfl, rfl, hvalue⟩
      · rintro ⟨k, v, hstops, rfl, rfl, hvalue⟩
        have := Settings.update_eq_refused_iff.2 ⟨k, v, hstops, rfl, hvalue⟩
        rw [hrun] at this
        cases this
        rfl

/-- **The state of a session** is what its steps have given last.  A setting has the value of the
last update that wrote it, or the default if there was none since the last reset; the words are
those of the last step that loaded any, bytes in the order that was in force.  A setting holds a
value of its own kind at any time.  An update that fails keeps what it did before the value that is
refused; all other steps that fail change nothing, and neither do steps that only show something. -/
theorem run_eq_iff_latest (ts : List Step) :
    (∀ s, (run {} ts).1 = s ↔
      (∀ k, SettingIs k ts (s.settings.value k)) ∧ WordsAre ts s.words) ∧
    (∀ k : Setting, k.Accepts ((run {} ts).1.settings.value k)) ∧
    (∀ changes s' e, (run {} ts).1.step (.update changes) = (s', .error e) ↔
      ∃ k v, changes.StopsAt k v ∧ e = .setting (k.refusal v) ∧ s'.words = (run {} ts).1.words ∧
        ∀ k', s'.settings.value k' =
          if k'.position < k.position then
            (changes.given k').getD ((run {} ts).1.settings.value k')
          else (run {} ts).1.settings.value k') ∧
    (∀ t e, (∀ changes, t ≠ .update changes) → ((run {} ts).1.step t).2 = .error e →
      ((run {} ts).1.step t).1 = (run {} ts).1) ∧
    ∀ t, (t = .showSettings ∨ t = .showAll ∨ ∃ pc, t = .showAt pc) →
      ((run {} ts).1.step t).1 = (run {} ts).1 := by
  refine ⟨fun s => ?_, fun k => Settings.accepts_value _ k,
    fun changes s' e => step_update_eq_error_iff, fun t e => step_eq_of_error, ?_⟩
  · simp only [settingIs_iff, wordsAre_iff]
    constructor
    · rintro rfl
      exact ⟨fun k => rfl, rfl⟩
    · rintro ⟨hsettings, hwords⟩
      have hsettings := Settings.eq_of_value_eq hsettings
      obtain ⟨settings, words⟩ := s
      cases hsettings
      cases hwords
      rfl
  · rintro t (rfl | rfl | ⟨pc, rfl⟩) <;> rfl

-- the update fails, but the byte order comes before the setting that refuses and is in force
example : (run {} [.update fun k => [(Setting.byteOrder, Value.string "big"),
    (.resolveBuiltins, .int 1)].lookup k, .loadBytes [0, 0, 0, 1]]).1 =
    { settings := { byteOrder := .big }, words := [1] } := by decide

end LuauDisassembler.Session
