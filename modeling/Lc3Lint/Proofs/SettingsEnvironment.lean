import Mathlib
import Lc3Lint.Config
/-! Settings read from the environment: three variables read in a fixed order, the first unreadable
one reported, and otherwise the settings they say. -/
namespace Lc3Lint

namespace Config

def flagWord (value : String) : String := Text.lower (Text.trimBlank value)

def flagWords : List String := ["1", "0", "true", "false", "yes", "no", "on", "off"]

def flagMeaning (value : String) : Bool := decide (flagWord value ∈ ["1", "true", "yes", "on"])

def BadFlag (value : String) : Prop := flagWord value ∉ flagWords

instance : DecidablePred BadFlag := fun _ => inferInstanceAs (Decidable (_ ∉ _))

def BadLimit (value : String) : Prop := ∀ n, Text.readInteger? value = some n → n < 1

theorem setValue?_eq_none_iff (env : String → Option String) (name : String) :
    setValue? env name = none ↔ env name = none ∨ env name = some "" := by
  unfold setValue?
  cases env name with
  | none => simp
  | some s => simp [String.isEmpty]

theorem ofEnv_eq (env : String → Option String) : ofEnv env = (do
    let duplicates ← (setValue? env duplicateLabelsVariable).elim (pure true)
      (readFlag duplicateLabelsVariable)
    let warnings ← (setValue? env warningsVariable).elim (pure false) (readFlag warningsVariable)
    let limit ← (setValue? env maxErrorsVariable).elim (pure 100) (readLimit maxErrorsVariable)
    pure { checkDuplicateLabels := duplicates, warningsAsErrors := warnings, maxErrors := limit }) := by
  unfold ofEnv
  rcases setValue? env duplicateLabelsVariable with _ | d <;>
    rcases setValue? env warningsVariable with _ | w <;>
    rcases setValue? env maxErrorsVariable with _ | m <;>
    simp only [Option.elim, pure_bind]

theorem mem_flagWords_iff (w : String) :
    w ∈ flagWords ↔ w ∈ ["1", "true", "yes", "on"] ∨ w ∈ ["0", "false", "no", "off"] := by
  simp only [flagWords, List.mem_cons, List.not_mem_nil, or_false]
  tauto

theorem readFlag_eq (name value : String) :
    readFlag name value =
      if BadFlag value then .error (.notAFlag name value) else .ok (flagMeaning value) := by
  have hword : Text.lower (Text.trimBlank value) = flagWord value := rfl
  dsimp only [readFlag]
  rw [hword]
  by_cases hon : flagWord value ∈ ["1", "true", "yes", "on"]
  · have hgood : ¬BadFlag value := not_not.2 ((mem_flagWords_iff _).2 (.inl hon))
    rw [if_pos hon, if_neg hgood, flagMeaning, decide_eq_true hon]
  · by_cases hoff : flagWord value ∈ ["0", "false", "no", "off"]
    · have hgood : ¬BadFlag value := not_not.2 ((mem_flagWords_iff _).2 (.inr hoff))
      rw [if_neg hon, if_pos hoff, if_neg hgood, flagMeaning, decide_eq_false hon]
    · have hbad : BadFlag value := fun h => ((mem_flagWords_iff _).1 h).elim hon hoff
      rw [if_neg hon, if_neg hoff, if_pos hbad]

theorem elim_readFlag {o : Option String} (h : ∀ v ∈ o, ¬BadFlag v) (name : String)
    (default : Bool) : o.elim (pure default) (readFlag name) = .ok (o.elim default flagMeaning) := by
  cases o with
  | none => rfl
  | some v => simp only [Option.elim, readFlag_eq, if_neg (h v rfl)]

theorem readLimit_eq (name value : String) :
    readLimit name value = (Text.readInteger? value).elim (.error (.notAnInteger name value))
      fun n => if n < 1 then .error (.variableBelowOne name value) else .ok n := by
  unfold readLimit
  cases Text.readInteger? value <;> rfl

theorem readLimit_of_none {name value : String} (h : Text.readInteger? value = none) :
    readLimit name value = .error (.notAnInteger name value) := by
  rw [readLimit_eq, h]
  rfl

theorem readLimit_of_lt_one {name value : String} {n : Int} (h : Text.readInteger? value = some n)
    (hn : n < 1) : readLimit name value = .error (.variableBelowOne name value) := by
  rw [readLimit_eq, h]
  exact if_pos hn

theorem elim_readLimit {o : Option String} (h : ∀ v ∈ o, ¬BadLimit v) (name : String) :
    o.elim (pure 100) (readLimit name) = .ok ((o.bind Text.readInteger?).getD 100) ∧
      1 ≤ (o.bind Text.readInteger?).getD 100 := by
  cases o with
  | none => exact ⟨rfl, by decide⟩
  | some v =>
    -- a readable limit is an integer of at least one
    obtain ⟨n, hv, hn⟩ : ∃ n, Text.readInteger? v = some n ∧ 1 ≤ n := by
      have hv := h v rfl
      simp only [BadLimit, not_forall, Int.not_lt, exists_prop] at hv
      exact hv
    have hread : readLimit name v = .ok n := by
      rw [readLimit_eq, hv]
      exact if_neg (Int.not_lt.2 hn)
    show readLimit name v = .ok ((Text.readInteger? v).getD 100) ∧
      1 ≤ (Text.readInteger? v).getD 100
    rw [hread, hv]
    exact ⟨rfl, hn⟩

variable {env : String → Option String}

theorem ofEnv_of_bad_duplicates {d : String} (hd : setValue? env duplicateLabelsVariable = some d)
    (hbad : BadFlag d) : ofEnv env = .error (.notAFlag duplicateLabelsVariable d) := by
  rw [ofEnv_eq, hd, Option.elim, readFlag_eq, if_pos hbad]
  rfl

theorem ofEnv_of_bad_warnings (hd : ∀ d ∈ setValue? env duplicateLabelsVariable, ¬BadFlag d)
    {w : String} (hw : setValue? env warningsVariable = some w) (hbad : BadFlag w) :
    ofEnv env = .error (.notAFlag warningsVariable w) := by
  rw [ofEnv_eq, elim_readFlag hd, hw, Option.elim, readFlag_eq, if_pos hbad]
  rfl

theorem ofEnv_of_bad_limit (hd : ∀ d ∈ setValue? env duplicateLabelsVariable, ¬BadFlag d)
    (hw : ∀ w ∈ setValue? env warningsVariable, ¬BadFlag w) {m : String}
    (hm : setValue? env maxErrorsVariable = some m) :
    ofEnv env = readLimit maxErrorsVariable m >>= fun limit => pure
      { checkDuplicateLabels := (setValue? env duplicateLabelsVariable).elim true flagMeaning,
        warningsAsErrors := (setValue? env warningsVariable).elim false flagMeaning,
        maxErrors := limit } := by
  rw [ofEnv_eq, elim_readFlag hd, elim_readFlag hw, hm]
  rfl

theorem ofEnv_of_readable (hd : ∀ d ∈ setValue? env duplicateLabelsVariable, ¬BadFlag d)
    (hw : ∀ w ∈ setValue? env warningsVariable, ¬BadFlag w)
    (hm : ∀ m ∈ setValue? env maxErrorsVariable, ¬BadLimit m) :
    ofEnv env = .ok
      { checkDuplicateLabels := (setValue? env duplicateLabelsVariable).elim true flagMeaning,
        warningsAsErrors := (setValue? env warningsVariable).elim false flagMeaning,
        maxErrors := ((setValue? env maxErrorsVariable).bind Text.readInteger?).getD 100 } := by
  rw [ofEnv_eq, elim_readFlag hd, elim_readFlag hw, (elim_readLimit hm _).1]
  rfl

theorem ofEnv_fails
    (h : (∃ d ∈ setValue? env duplicateLabelsVariable, BadFlag d) ∨
      (∃ w ∈ setValue? env warningsVariable, BadFlag w) ∨
      (∃ m ∈ setValue? env maxErrorsVariable, BadLimit m)) :
    ∃ e, ofEnv env = .error e := by
  by_cases hd : ∃ d ∈ setValue? env duplicateLabelsVariable, BadFlag d
  · obtain ⟨d, hd, hbad⟩ := hd
    exact ⟨_, ofEnv_of_bad_duplicates hd hbad⟩
  simp only [not_exists, not_and] at hd
  by_cases hw : ∃ w ∈ setValue? env warningsVariable, BadFlag w
  · obtain ⟨w, hw, hbad⟩ := hw
    exact ⟨_, ofEnv_of_bad_warnings hd hw hbad⟩
  simp only [not_exists, not_and] at hw
  obtain ⟨m, hm, hbad⟩ := h.resolve_left (by simpa using hd) |>.resolve_left (by simpa using hw)
  rw [ofEnv_of_bad_limit hd hw hm]
  -- a limit that is no integer, or one below one, is refused
  cases hr : Text.readInteger? m with
  | none => exact ⟨_, by rw [readLimit_of_none hr]; rfl⟩
  | some n => exact ⟨_, by rw [readLimit_of_lt_one hr (hbad n hr)]; rfl⟩

theorem one_le_maxErrors_of_ofEnv {c : Config} (h : ofEnv env = .ok c) : 1 ≤ c.maxErrors := by
  by_cases hbad : (∃ d ∈ setValue? env duplicateLabelsVariable, BadFlag d) ∨
      (∃ w ∈ setValue? env warningsVariable, BadFlag w) ∨
      (∃ m ∈ setValue? env maxErrorsVariable, BadLimit m)
  · obtain ⟨e, he⟩ := ofEnv_fails hbad
    rw [he] at h
    cases h
  · simp only [not_or, not_exists, not_and] at hbad
    rw [ofEnv_of_readable hbad.1 hbad.2.1 hbad.2.2] at h
    cases h
    exact (elim_readLimit hbad.2.2 maxErrorsVariable).2

/-- Settings from the environment, exactly. Reading fails exactly when a set switch is no flag or a
set limit no integer of at least one, naming the first such variable in a fixed order; otherwise
the settings are what the variables say, 100 errors when the limit is unset. -/
theorem ofEnv_exact (env : String → Option String) :
    (∀ name, setValue? env name = none ↔ env name = none ∨ env name = some "") ∧
    ((∃ e, ofEnv env = .error e) ↔
      (∃ d ∈ setValue? env duplicateLabelsVariable, BadFlag d) ∨
      (∃ w ∈ setValue? env warningsVariable, BadFlag w) ∨
      (∃ m ∈ setValue? env maxErrorsVariable, BadLimit m)) ∧
    (∀ d ∈ setValue? env duplicateLabelsVariable, BadFlag d →
      ofEnv env = .error (.notAFlag duplicateLabelsVariable d)) ∧
    ((∀ d ∈ setValue? env duplicateLabelsVariable, ¬BadFlag d) →
      ∀ w ∈ setValue? env warningsVariable, BadFlag w →
        ofEnv env = .error (.notAFlag warningsVariable w)) ∧
    ((∀ d ∈ setValue? env duplicateLabelsVariable, ¬BadFlag d) →
      (∀ w ∈ setValue? env warningsVariable, ¬BadFlag w) →
      ∀ m ∈ setValue? env maxErrorsVariable,
        (Text.readInteger? m = none → ofEnv env = .error (.notAnInteger maxErrorsVariable m)) ∧
        (∀ n, Text.readInteger? m = some n → n < 1 →
          ofEnv env = .error (.variableBelowOne maxErrorsVariable m))) ∧
    ((∀ d ∈ setValue? env duplicateLabelsVariable, ¬BadFlag d) →
      (∀ w ∈ setValue? env warningsVariable, ¬BadFlag w) →
      (∀ m ∈ setValue? env maxErrorsVariable, ¬BadLimit m) →
      ofEnv env = .ok
        { checkLabels := true, checkRanges := true,
          checkDuplicateLabels := (setValue? env duplicateLabelsVariable).elim true flagMeaning,
          warningsAsErrors := (setValue? env warningsVariable).elim false flagMeaning,
          maxErrors := ((setValue? env maxErrorsVariable).bind Text.readInteger?).getD 100 }) ∧
    ∀ c, ofEnv env = .ok c → 1 ≤ c.maxErrors := by
  refine ⟨setValue?_eq_none_iff env, ⟨fun ⟨e, he⟩ => ?_, ofEnv_fails⟩,
    fun d hd => ofEnv_of_bad_duplicates hd, fun hd w hw => ofEnv_of_bad_warnings hd hw,
    fun hd hw m hm => ?_, fun hd hw hm => ofEnv_of_readable hd hw hm,
    fun c => one_le_maxErrors_of_ofEnv⟩
  · -- no failure when every set variable can be read
    by_contra hnone
    simp only [not_or, not_exists, not_and] at hnone
    rw [ofEnv_of_readable hnone.1 hnone.2.1 hnone.2.2] at he
    cases he
  · rw [ofEnv_of_bad_limit hd hw hm]
    exact ⟨fun h => by rw [readLimit_of_none h]; rfl,
      fun n h hn => by rw [readLimit_of_lt_one h hn]; rfl⟩

theorem ofEnv_exact_switch_first :
    BadFlag "maybe" ∧ BadLimit "lots" ∧
    ofEnv (fun n => if n = warningsVariable then some "maybe"
      else if n = maxErrorsVariable then some "lots" else none) =
      .error (.notAFlag warningsVariable "maybe") := by
  have hbad : BadFlag "maybe" := by decide +kernel
  have hlots : Text.readInteger? "lots" = none := by decide +kernel
  refine ⟨hbad, fun n h => absurd (hlots.symm.trans h) nofun,
    (ofEnv_exact _).2.2.2.1 (fun d hd => ?_) "maybe" ?_ hbad⟩
  · simp [setValue?, duplicateLabelsVariable, warningsVariable, maxErrorsVariable] at hd
  · simp [setValue?, warningsVariable]

end Config

end Lc3Lint
