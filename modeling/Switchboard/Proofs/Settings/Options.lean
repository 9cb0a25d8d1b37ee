import Switchboard.Proofs.Json.Values
import Switchboard.Proofs.Settings.Layers
import Switchboard.Settings.CommandLine

/-! # What a command line gives

A command line that is accepted gives values to options.  Which ones can be seen from
the arguments alone, without the state of the parser: an option has the value after its
equals sign, or else the next argument (`CommandLine.given`).

The parser takes a value in only when it meets the next option.  What it has taken in and
what is still due to be taken in are together what the arguments give so far
(`exists_of_step`), so in the end it has what the whole line gives (`eq_ofGiven_of_parse`).
That is a layer of settings (`CommandLine.flags`). -/
namespace Switchboard

open Settings (Layer)

namespace CommandLine

variable {s : String} {args : List String} {c : CommandLine} {p : Parameter} {v : String}
  {pending pending' : Pending} {g : List (Parameter × String)} {j : Bool}

/-- The options that are given a value, in order and with their values. -/
def given : List String → List (Parameter × String)
  | [] => []
  | s :: rest =>
    match Argument.ofText s with
    | .long name value =>
      match parameter? name with
      | some p => ((value.or rest.head?).map fun v => (p, v)).toList ++ given rest
      | none => given rest
    | _ => given rest

/-- The values of one option, in order. -/
def values (p : Parameter) (g : List (Parameter × String)) : List String :=
  (g.filter fun e => e.1 = p).map Prod.snd

/-- What is given, put together. -/
def ofGiven (g : List (Parameter × String)) (logJson : Bool) : CommandLine where
  config := (values .config g).head?
  host := (values .host g).head?
  port := (values .port g).findSome? port?
  brokers := (values .brokers g).head?
  topics := values .topic g
  logLevel := (values .logLevel g).head?
  logJson := logJson

/-! ## Taking in a value -/

theorem values_append (p : Parameter) (g g' : List (Parameter × String)) :
    values p (g ++ g') = values p g ++ values p g' := by
  rw [values, List.filter_append, List.map_append]
  rfl

theorem values_single (p q : Parameter) (v : String) :
    values q [(p, v)] = if p = q then [v] else [] := by
  by_cases h : p = q <;> simp [values, h]

/-- An option that can be given once has the only value that it is given. -/
theorem eq_findSome?_of_once {α : Type} {f : String → Option α} {vs : List String}
    {new : Except UsageError α} {new? : Option α} (h : once (vs.findSome? f) new = .ok new?)
    (hnew : ∀ a, new = .ok a → f v = some a) : new? = (vs ++ [v]).findSome? f := by
  rw [List.findSome?_append]
  cases hold : vs.findSome? f with
  | some a =>
    -- it would be given twice
    rw [hold] at h
    cases h
  | none =>
    rw [hold] at h
    cases new with
    | error e => cases h
    | ok a =>
      cases h
      simp [hnew a rfl]

theorem eq_head?_of_once {vs : List String} {new : Except UsageError String}
    {new? : Option String} (h : once vs.head? new = .ok new?) (hnew : ∀ a, new = .ok a → v = a) :
    new? = (vs ++ [v]).head? := by
  have hhead : ∀ vs : List String, vs.head? = vs.findSome? some := by
    intro vs
    cases vs <;> rfl
  rw [hhead] at h ⊢
  exact eq_findSome?_of_once h fun a ha => congrArg some (hnew a ha)

/-- A value that is taken in is one more that is given. -/
theorem eq_ofGiven_of_take (h : (ofGiven g j).take p v = .ok c) :
    c = ofGiven (g ++ [(p, v)]) j := by
  cases p with
  | config =>
    obtain ⟨new, honce, hc⟩ := Json.exists_of_bind_eq_ok h
    obtain rfl : new = (values .config g ++ [v]).head? := by
      refine eq_head?_of_once honce fun a ha => ?_
      split at ha <;> cases ha
      rfl
    cases hc
    simp [ofGiven, values_append, values_single]
  | host =>
    obtain ⟨new, honce, hc⟩ := Json.exists_of_bind_eq_ok h
    obtain rfl := eq_head?_of_once honce fun a ha => Except.ok.inj ha
    cases hc
    simp [ofGiven, values_append, values_single]
  | port =>
    obtain ⟨new, honce, hc⟩ := Json.exists_of_bind_eq_ok h
    obtain rfl : new = (values .port g ++ [v]).findSome? port? := by
      refine eq_findSome?_of_once honce fun a ha => ?_
      split at ha <;> cases ha
      assumption
    cases hc
    simp [ofGiven, values_append, values_single]
  | brokers =>
    obtain ⟨new, honce, hc⟩ := Json.exists_of_bind_eq_ok h
    obtain rfl := eq_head?_of_once honce fun a ha => Except.ok.inj ha
    cases hc
    simp [ofGiven, values_append, values_single]
  | topic =>
    cases h
    simp [ofGiven, values_append, values_single]
  | logLevel =>
    obtain ⟨new, honce, hc⟩ := Json.exists_of_bind_eq_ok h
    obtain rfl := eq_head?_of_once honce fun a ha => Except.ok.inj ha
    cases hc
    simp [ofGiven, values_append, values_single]

/-! ## Taking in arguments -/

/-- What is still due to be taken in: what is pending, and what follows. -/
def due : Pending → List String → List (Parameter × String)
  | .nothing, args => given args
  | .awaiting p, args => (args.head?.map fun v => (p, v)).toList ++ given args
  | .holding p v, args => (p, v) :: given args

theorem exists_of_settle (h : (ofGiven g j).settle pending = .ok c) :
    ∃ g', c = ofGiven (g ++ g') j ∧ ∀ args, due pending args = g' ++ given args := by
  cases pending with
  | nothing =>
    cases h
    exact ⟨[], by rw [List.append_nil], fun args => rfl⟩
  | awaiting p => cases h
  | holding p v => exact ⟨[(p, v)], eq_ofGiven_of_take h, fun args => rfl⟩

theorem eq_of_ofText_plain (h : Argument.ofText s = .plain v) : v = s := by
  unfold Argument.ofText at h
  split at h <;> cases h
  rfl

theorem ofText_eq_logJson_iff : Argument.ofText s = .long "log-json" none ↔ s = "--log-json" := by
  constructor
  · intro h
    unfold Argument.ofText at h
    split at h
    · cases h
    · next rest _ hrest =>
      obtain ⟨hname, hvalue⟩ := Argument.long.inj h
      -- there is no equals sign, so all of it is the name
      have hall : rest.takeWhile (· ≠ '=') = rest := by
        have hdrop : rest.drop (rest.takeWhile (· ≠ '=')).length = [] := by
          split at hvalue
          · cases hvalue
          · assumption
        exact (List.takeWhile_prefix _).eq_of_length_le (List.drop_eq_nil_iff.mp hdrop)
      rw [hall] at hname
      have hletters : rest = "log-json".toList := by
        rw [← hname, String.toList_ofList]
      rw [← String.ofList_toList (s := s), hrest, hletters]
      decide
    · cases h
    · cases h
  · rintro rfl
    decide +kernel

theorem given_cons_of_parameter? {name : String} {value : Option String}
    (hs : Argument.ofText s = .long name value) (hname : parameter? name = some p) :
    given (s :: args) = ((value.or args.head?).map fun v => (p, v)).toList ++ given args := by
  rw [given, hs]
  simp only [hname]

theorem given_cons_of_not_parameter? (hs : ∀ name value, Argument.ofText s = .long name value →
    parameter? name = none) : given (s :: args) = given args := by
  rw [given]
  cases hform : Argument.ofText s with
  | long name value => simp only [hs name value hform]
  | escape | short | plain => rfl

/-- With an argument, part of what is due is taken in, and the rest is due still. -/
def TakesIn (s : String) (g : List (Parameter × String)) (j : Bool) (pending : Pending)
    (c : CommandLine) (pending' : Pending) : Prop :=
  ∃ g', c = ofGiven (g ++ g') (j || s = "--log-json") ∧
    ∀ rest, due pending (s :: rest) = g' ++ due pending' rest

theorem takesIn_of_option {name : String} {value : Option String}
    (hform : Argument.ofText s = .long name value) (hname : parameter? name = some p)
    (h : (ofGiven g j).step pending (.long name value) = .ok (c, pending')) :
    TakesIn s g j pending c pending' := by
  have hflag : s ≠ "--log-json" := by
    intro he
    cases hform.symm.trans (ofText_eq_logJson_iff.mpr he)
    cases hname
  have hgiven : ∀ rest, given (s :: rest) = _ := fun rest =>
    given_cons_of_parameter? hform hname
  simp only [step, hname] at h
  obtain ⟨c', hsettle, h⟩ := Json.exists_of_bind_eq_ok h
  obtain ⟨g', rfl, hdue⟩ := exists_of_settle hsettle
  cases value with
  | none =>
    -- the next argument will be the value
    cases h
    refine ⟨g', by simp [hflag], fun rest => ?_⟩
    rw [hdue, hgiven]
    rfl
  | some v =>
    obtain ⟨c'', htake, h⟩ := Json.exists_of_bind_eq_ok h
    cases h
    refine ⟨g' ++ [(p, v)], ?_, fun rest => ?_⟩
    · rw [eq_ofGiven_of_take htake, List.append_assoc]
      simp [hflag]
    · rw [hdue, hgiven, List.append_assoc]
      rfl

theorem takesIn_of_flag {name : String} {value : Option String}
    (hform : Argument.ofText s = .long name value) (hname : parameter? name = none)
    (h : (ofGiven g j).step pending (.long name value) = .ok (c, pending')) :
    TakesIn s g j pending c pending' := by
  have hgiven : ∀ rest, given (s :: rest) = given rest := fun rest =>
    given_cons_of_not_parameter? fun name' v he => by
      cases hform.symm.trans he
      exact hname
  simp only [step, hname] at h
  split at h
  · next hlogJson =>
    subst hlogJson
    cases value with
    | some v => cases h
    | none =>
      have hs := ofText_eq_logJson_iff.mp hform
      obtain ⟨c', hsettle, h⟩ := Json.exists_of_bind_eq_ok h
      obtain ⟨g', rfl, hdue⟩ := exists_of_settle hsettle
      split at h
      · cases h
      · cases h
        refine ⟨g', by simp [hs, ofGiven], fun rest => ?_⟩
        rw [hdue, hgiven]
        rfl
  · -- help ends the parser like a fault
    split at h
    · cases value with
      | some v => cases h
      | none =>
        obtain ⟨_, _, h⟩ := Json.exists_of_bind_eq_ok h
        cases h
    · cases h

theorem takesIn_of_plain (hform : Argument.ofText s = .plain s)
    (h : (ofGiven g j).step pending (.plain s) = .ok (c, pending')) :
    TakesIn s g j pending c pending' := by
  have hflag : s ≠ "--log-json" := fun he =>
    nomatch hform.symm.trans (ofText_eq_logJson_iff.mpr he)
  have hgiven : ∀ rest, given (s :: rest) = given rest := fun rest =>
    given_cons_of_not_parameter? fun name v he => nomatch hform.symm.trans he
  cases pending with
  | nothing | holding => cases h
  | awaiting p =>
    cases h
    refine ⟨[], by simp [hflag], fun rest => ?_⟩
    simp [due, hgiven]

/-- **What an argument changes** is that part of what is due is taken in. -/
theorem takesIn_of_step (h : (ofGiven g j).step pending (Argument.ofText s) = .ok (c, pending'))
    (hs : Argument.ofText s ≠ .escape) : TakesIn s g j pending c pending' := by
  cases hform : Argument.ofText s with
  | escape => exact absurd hform hs
  | long name value =>
    rw [hform] at h
    cases hname : parameter? name with
    | some p => exact takesIn_of_option hform hname h
    | none => exact takesIn_of_flag hform hname h
  | short letters =>
    simp only [hform, step] at h
    split at h
    · obtain ⟨_, _, h⟩ := Json.exists_of_bind_eq_ok h
      cases h
    · cases h
  | plain value =>
    obtain rfl := eq_of_ofText_plain hform
    rw [hform] at h
    exact takesIn_of_plain hform h

/-! ## The whole line -/

theorem run_cons (hs : Argument.ofText s ≠ .escape) : run c pending (s :: args) =
    match c.step pending (Argument.ofText s) with
    | .error e => .error e
    | .ok (c, pending) => run c pending args := by
  rw [run]
  cases hform : Argument.ofText s with
  | escape => exact absurd hform hs
  | long | short | plain => rfl

/-- In the end all that was due is taken in. -/
theorem eq_ofGiven_of_run (h : run (ofGiven g j) pending args = .ok c) :
    c = ofGiven (g ++ due pending args) (j || decide ("--log-json" ∈ args)) := by
  induction args generalizing g j pending with
  | nil =>
    obtain ⟨g', rfl, hdue⟩ := exists_of_settle h
    rw [hdue, given]
    simp
  | cons s rest ih =>
    by_cases hs : Argument.ofText s = .escape
    · -- two dashes end the line, with nothing after them
      rw [run, hs] at h
      simp only at h
      split at h
      · next hrest =>
        obtain rfl := List.isEmpty_iff.mp hrest
        obtain ⟨g', rfl, hdue⟩ := exists_of_settle h
        have hflag : "--log-json" ≠ s := fun he =>
          nomatch hs.symm.trans (ofText_eq_logJson_iff.mpr he.symm)
        rw [hdue, given, hs, given]
        simp [hflag]
      · cases h
    · rw [run_cons hs] at h
      split at h
      · cases h
      · next c' pending' hstep =>
        obtain ⟨g', rfl, hdue⟩ := takesIn_of_step hstep hs
        rw [ih h, hdue, List.append_assoc]
        simp [List.mem_cons, eq_comm, Bool.or_assoc]

/-- **What a command line gives** can be seen from its arguments, if it is accepted. -/
theorem eq_ofGiven_of_parse (h : parse args = .ok c) :
    c = ofGiven (given args) (decide ("--log-json" ∈ args)) := by
  have hrun : run (ofGiven [] false) .nothing args = .ok c := h
  simpa [due] using eq_ofGiven_of_run hrun

/-- What the flags of a command line say. -/
def flags (args : List String) : Layer where
  host := (values .host (given args)).head?
  port := (values .port (given args)).findSome? port?
  brokers := (values .brokers (given args)).head?
  topics := if values .topic (given args) = [] then none else some (values .topic (given args))
  level := (values .logLevel (given args)).head?
  format := if "--log-json" ∈ args then some .json else none

/-- A command line is put onto settings as the layer of its flags. -/
theorem applyTo_eq_onto (h : parse args = .ok c) (s : Settings) :
    c.applyTo s = (flags args).onto s := by
  have htopics : ∀ topics : List String, (if topics.isEmpty then s.bus.topics else topics) =
      (if topics = [] then none else some topics).getD s.bus.topics := by
    intro topics
    cases topics <;> rfl
  have hformat : ∀ j : Bool, (if j then LogFormat.json else s.logging.format) =
      (if j then some LogFormat.json else none).getD s.logging.format := by
    intro j
    cases j <;> rfl
  rw [eq_ofGiven_of_parse h, applyTo, htopics, hformat]
  simp only [ofGiven, decide_eq_true_eq]
  rfl

end CommandLine
end Switchboard
