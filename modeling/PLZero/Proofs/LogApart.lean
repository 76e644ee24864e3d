import PLZero.Proofs.Outcomes

/-! The log tells what a run does, and the run does nothing else for being asked to tell. Every line
of the log is written at the time of its event, before what comes next is known.

* `Invocation.aloud` is a run that writes its log on the way, event by event.
* `Invocation.aloud_eq`: it comes to the result of `Invocation.run`, and has then written the log of
  that outcome.
* `Invocation.telling` is the same run with another wish for its log.
* `runCommand_apart_from_log`: what is seen of such runs, apart from the log. -/
namespace PLZero
set_option autoImplicit false

/-! ## Logs -/

/-- Which events a log shows, and how it writes them. -/
structure Log where
  filter : Filter
  coloured : Bool
  time : String
  deriving DecidableEq, Repr

namespace Log

def line (log : Log) (e : Event) : String :=
  if log.filter.shows e then e.render log.coloured log.time else ""

def text (log : Log) (es : List Event) : String := String.join (es.map log.line)

/-- Adds what the log has of an event to what is written already. -/
def tell (log : Log) (e : Event) : StateM String Unit := modify (· ++ log.line e)

variable (log : Log) (e : Event) (es es' : List Event)

@[simp] theorem text_nil : log.text [] = "" := rfl

@[simp] theorem text_cons : log.text (e :: es) = log.line e ++ log.text es := by
  rw [text, List.map_cons, String.join_cons, text]

@[simp] theorem text_append : log.text (es ++ es') = log.text es ++ log.text es' := by
  induction es with
  | nil => rw [List.nil_append, text_nil, String.empty_append]
  | cons e es ih => rw [List.cons_append, text_cons, ih, text_cons, String.append_assoc]

theorem logText_eq_text (o : Outcome) :
    o.logText log.filter log.coloured log.time = log.text o.events := by
  rw [Outcome.logText, text]
  induction o.events with
  | nil => rfl
  | cons e es ih =>
    rw [List.filter_cons, List.map_cons, String.join_cons, ← ih, line]
    split
    · rw [List.map_cons, String.join_cons]
    · rw [String.empty_append]

end Log

/-! ## Runs that write on the way -/

/-- What there is to tell about a lexeme. -/
def Event.ofPulled : Pulled → Event
  | .ok t => .token t.kind t.start
  | .error f => .fault f

/-- `Lexer.tokensAfter`, telling each lexeme once it is pulled. The end of the text passes in
silence. -/
def Lexer.tokensAloud (log : Log) (found : Array Token) (l : Lexer) :
    StateM String (Except Fault (Array Token)) :=
  match _h : l.next with
  | (.error f, _) => do
    log.tell (.ofPulled (.error f))
    return .error f
  | (.ok t, l') =>
    if _e : t.isEnd = true then return .ok (found.push t)
    else do
      log.tell (.ofPulled (.ok t))
      tokensAloud log (found.push t) l'
termination_by l.input.rest.length
decreasing_by
  have hl : l' = l.next.2 := by rw [_h]
  rw [hl]
  exact next_rest_length_lt l (by rw [_h]; simpa [isEnd] using _e)

/-- `Listing.dump`, telling each lexeme, and the number of tokens if no lexeme is faulty. -/
def Listing.dumpAloud (log : Log) (l : Listing) (s : Settings) :
    StateM String (Except Rejected String) := do
  match ← (Lexer.ofString l.content s.alphabet).tokensAloud log #[] with
  | .error f => return .error ⟨f, (Report.ofFault f).render l⟩
  | .ok ts =>
    log.tell (.tokenized l.name ts.size)
    return .ok (dumpText s.spans ts.toList)

namespace Invocation

/-- `Invocation.run`, telling the settings once they are known and then what becomes of the
input. -/
def runAloud (log : Log) (i : Invocation) (read : ReadFile) :
    StateM String (Except Failure String) := do
  match i.loadSettings read with
  | .error f => return .error f
  | .ok s =>
    log.tell (.configured (i.override s))
    match i.loadListing read with
    | .error f => return .error f
    | .ok l => return (← l.dumpAloud log (i.override s)).mapError .rejected

/-- A run that writes its log on the way. The dump is written when all is done, and so is the
report of a failure, behind the log. -/
def aloud (log : Log) (i : Invocation) (read : ReadFile) : Response :=
  match (i.runAloud log read).run "" with
  | (.ok dump, written) => ⟨0, dump, written⟩
  | (.error f, written) => ⟨1, "", written ++ f.console⟩

end Invocation

/-! ## The log that is written -/

section
variable (log : Log) (written : String)

theorem Log.tell_run (e : Event) : (log.tell e).run written = ((), written ++ log.line e) := rfl

theorem Lexer.yields_of_error {l l' : Lexer} {f : Fault} (h : l.next = (.error f, l')) :
    l.yields = [.error f] := by
  rw [yields]
  split <;> simp_all

theorem Lexer.yields_of_end {l l' : Lexer} {t : Token} (h : l.next = (.ok t, l'))
    (he : t.isEnd = true) : l.yields = [] := by
  rw [yields]
  split <;> simp_all

theorem Lexer.yields_of_token {l l' : Lexer} {t : Token} (h : l.next = (.ok t, l'))
    (he : ¬t.isEnd = true) : l.yields = .ok t :: l'.yields := by
  rw [yields]
  split <;> simp_all

/-- The log of a run tells exactly what a pass over the text yields. -/
theorem Lexer.tokensAloud_run (found : Array Token) (l : Lexer) :
    (l.tokensAloud log found).run written =
      ((l.tokensAfter found).1, written ++ log.text (l.yields.map .ofPulled)) := by
  fun_induction tokensAloud log found l generalizing written with
  | case1 found l f l' h =>
    have hafter : l.tokensAfter found = (.error f, l') := by
      rw [tokensAfter]
      split <;> simp_all
    rw [hafter, yields_of_error h, List.map_cons, List.map_nil, Log.text_cons, Log.text_nil,
      String.append_empty]
    rfl
  | case2 found l t l' h he =>
    have hafter : l.tokensAfter found = (.ok (found.push t), l') := by
      rw [tokensAfter]
      split <;> simp_all
    rw [hafter, yields_of_end h he, List.map_nil, Log.text_nil, String.append_empty]
    rfl
  | case3 found l t l' h he ih =>
    have hafter : l.tokensAfter found = l'.tokensAfter (found.push t) := by
      rw [tokensAfter]
      split <;> simp_all
    rw [hafter, yields_of_token h he, List.map_cons, Log.text_cons, ← String.append_assoc]
    exact ih (written ++ log.line (.ofPulled (.ok t)))

theorem Listing.events_eq (l : Listing) (a : Alphabet) :
    l.events a = (Lexer.ofString l.content a).yields.map .ofPulled ++
      match l.tokens a with
      | .ok ts => [.tokenized l.name ts.length]
      | .error _ => [] := rfl

theorem Listing.dumpAloud_run (l : Listing) (s : Settings) :
    (l.dumpAloud log s).run written = (l.dump s, written ++ log.text (l.events s.alphabet)) := by
  have htokens := (Lexer.ofString l.content s.alphabet).tokensAloud_run log written #[]
  rw [dumpAloud, StateT.run_bind, htokens, dump, events_eq, tokens, Lexer.tokens]
  cases ((Lexer.ofString l.content s.alphabet).tokensAfter #[]).1 with
  | error f =>
    rw [List.append_nil]
    rfl
  | ok ts =>
    rw [Log.text_append, Log.text_cons, Log.text_nil, String.append_empty, ← String.append_assoc]
    rfl

namespace Invocation
variable (i : Invocation) (read : ReadFile)

theorem runAloud_run :
    (i.runAloud log read).run written =
      ((i.run read).result, written ++ log.text (i.run read).events) := by
  rw [runAloud, run]
  cases i.loadSettings read with
  | error f =>
    rw [Log.text_nil, String.append_empty]
    rfl
  | ok s =>
    dsimp only
    rw [StateT.run_bind, Log.tell_run]
    cases i.loadListing read with
    | error f =>
      rw [Log.text_cons, Log.text_nil, String.append_empty]
      rfl
    | ok l =>
      dsimp only
      rw [Log.text_cons, ← String.append_assoc]
      have hdump := l.dumpAloud_run log (written ++ log.line (.configured (i.override s)))
        (i.override s)
      exact congrArg (fun r => (r.1.mapError Failure.rejected, r.2)) hdump

end Invocation

end

namespace Invocation

/-- The log that a run is asked for. -/
def logFor (i : Invocation) (filter : Option String) (time : String) : Log :=
  ⟨.ofRun i.verbose filter, !i.noColour, time⟩

theorem aloud_eq (log : Log) (i : Invocation) (read : ReadFile) :
    i.aloud log read = (i.run read).response (log.text (i.run read).events) := by
  rw [aloud, runAloud_run, String.empty_append, Outcome.response]
  cases (i.run read).result <;> rfl

theorem respond_eq_aloud (i : Invocation) (filter : Option String) (read : ReadFile)
    (time : String) : i.respond filter read time = i.aloud (i.logFor filter time) read := by
  rw [aloud_eq, ← Log.logText_eq_text]
  rfl

end Invocation

/-! ## Runs that differ in their logs only -/

namespace Outcome
variable (o : Outcome) (log log' : String)

theorem response_code : (o.response log).code = (o.response log').code := by
  unfold response
  cases o.result <;> rfl

theorem response_output : (o.response log).output = (o.response log').output := by
  unfold response
  cases o.result <;> rfl

theorem response_errors : (o.response log).errors = log ++ (o.response "").errors := by
  unfold response
  cases o.result <;> simp

end Outcome

namespace Invocation
variable (i : Invocation) (verbose noColour : Bool) (filter : Option String) (read : ReadFile)
  (time : String)

/-- The same run, with another wish for how much is told and whether in colours. -/
def telling : Invocation := { i with verbose := verbose, noColour := noColour }

theorem telling_run : (i.telling verbose noColour).run read = i.run read := rfl

theorem telling_respond : (i.telling verbose noColour).respond filter read time =
    (i.run read).response (((i.telling verbose noColour).logFor filter time).text
      (i.run read).events) := by
  rw [respond_eq_aloud, aloud_eq, telling_run]

theorem respond_quiet : (i.telling false noColour).respond none read time =
    (i.run read).response "" := by
  rw [respond, telling_run]
  exact congrArg _ (Outcome.logText_standard _ _ _)

end Invocation

/-! ## Command lines -/

/-- What the environment may say about being verbose: nothing, or one of two words. -/
def Environment.verbosities : List (Option String) := [none, some "true", some "false"]

namespace Draft
variable {d : Draft} {env : Environment} {i : Invocation}

theorem exists_verbosity (d : Draft) (h : env.verbose ∈ Environment.verbosities) :
    ∃ v, d.verbosity env = .ok v := by
  unfold verbosity
  split
  · exact ⟨true, rfl⟩
  · rw [Environment.verbosities] at h
    split <;> simp_all

theorem finish_eq_ok_iff :
    d.finish env = .ok i ↔ ∃ config verbose input, d.configPath env = .ok config ∧
      d.verbosity env = .ok verbose ∧ d.input = some input ∧
      i = ⟨input, d.alphabet, d.spans, config, verbose, d.noColour⟩ := by
  unfold finish
  cases d.configPath env with
  | error r => simp [bind, Except.bind]
  | ok config =>
    cases d.verbosity env with
    | error r => simp [bind, Except.bind]
    | ok verbose =>
      cases d.input with
      | none => simp [bind, Except.bind]
      | some input => simp [bind, Except.bind, eq_comm]

theorem configPath_eq_error {r : Request} (h : d.configPath env = .error r) : r = .misuse := by
  unfold configPath at h
  split at h <;> cases h
  rfl

theorem verbosity_eq_error {r : Request} (h : d.verbosity env = .error r) : r = .misuse := by
  unfold verbosity at h
  split at h
  · cases h
  · split at h <;> cases h
    rfl

theorem finish_eq_error {r : Request} (h : d.finish env = .error r) : r = .misuse := by
  unfold finish at h
  cases hc : d.configPath env with
  | error r' =>
    rw [hc] at h
    cases h
    exact configPath_eq_error hc
  | ok config =>
    rw [hc] at h
    cases hv : d.verbosity env with
    | error r' =>
      rw [hv] at h
      cases h
      exact verbosity_eq_error hv
    | ok verbose =>
      rw [hv] at h
      cases hi : d.input with
      | none =>
        rw [hi] at h
        cases h
        rfl
      | some input =>
        rw [hi] at h
        cases h

end Draft

/-- What the environment says about the log takes no other part in reading the arguments. -/
theorem Request.ofArguments_of_verbosity {args : List String} {env env' : Environment}
    {i : Invocation} (h : ofArguments args env = .run i) (hconfig : env'.config = env.config)
    (hverbose : env'.verbose ∈ Environment.verbosities) :
    ∃ verbose, ofArguments args env' = .run (i.telling verbose i.noColour) := by
  unfold ofArguments at h ⊢
  cases hr : Draft.empty.read none args with
  | error r =>
    rw [hr] at h
    exact ⟨i.verbose, h⟩
  | ok d =>
    rw [hr] at h
    have hbind : ∀ env, (Except.ok d >>= (·.finish env) : Reading Invocation) = d.finish env :=
      fun _ => rfl
    rw [hbind] at h ⊢
    cases hf : d.finish env with
    | error r =>
      rw [hf, Draft.finish_eq_error hf] at h
      cases h
    | ok i' =>
      rw [hf] at h
      cases h
      obtain ⟨config, _, input, hpath, -, hinput, rfl⟩ := Draft.finish_eq_ok_iff.1 hf
      have hpath' : d.configPath env' = .ok config := by
        rw [← hpath, Draft.configPath, Draft.configPath, hconfig]
      obtain ⟨verbose, hv⟩ := d.exists_verbosity hverbose
      refine ⟨verbose, ?_⟩
      rw [Draft.finish_eq_ok_iff.2 ⟨config, verbose, input, hpath', hv, hinput, rfl⟩]
      rfl

/-- **The log stays apart from what a run does.** The command does what a run does that writes each
line of its log when it comes to the event. Whatever else the environment may say about being
verbose, the same arguments ask for the same run, up to how much is told; and however much is told,
the exit code and the output are the same. What the run writes to the error output if nothing is
asked of the log is the end of what it writes there in any other case. -/
theorem runCommand_apart_from_log {args : List String} {env : Environment} {i : Invocation}
    (h : Request.ofArguments args env = .run i) (read : ReadFile) (time : String) :
    let r := runCommand args env read time
    r = i.aloud (i.logFor env.log time) read ∧
    (∀ env' : Environment, env'.config = env.config → env'.verbose ∈ Environment.verbosities →
      ∃ verbose, Request.ofArguments args env' = .run (i.telling verbose i.noColour)) ∧
    ∀ (verbose noColour : Bool) (args' : List String) (env' : Environment) (time' : String),
      Request.ofArguments args' env' = .run (i.telling verbose noColour) →
      let r' := runCommand args' env' read time'
      r'.code = r.code ∧ r'.output = r.output ∧
      ∀ (plain : Bool) (now : String), ∃ told, r'.errors =
        told ++ ((i.telling false plain).respond none read now).errors := by
  have hrun : ∀ {args env} {j : Invocation} (time : String), Request.ofArguments args env = .run j →
      runCommand args env read time = j.respond env.log read time := by
    intro args env j time hj
    rw [runCommand, hj]
  intro r
  have hr : r = (i.run read).response _ :=
    (hrun time h).trans (i.telling_respond i.verbose i.noColour env.log read time)
  refine ⟨(hrun time h).trans (i.respond_eq_aloud env.log read time),
    fun env' hconfig hverbose => Request.ofArguments_of_verbosity h hconfig hverbose, ?_⟩
  intro verbose noColour args' env' time' h' r'
  have hr' : r' = (i.run read).response _ :=
    (hrun time' h').trans (i.telling_respond verbose noColour env'.log read time')
  rw [hr', hr]
  refine ⟨Outcome.response_code _ _ _, Outcome.response_output _ _ _, fun plain now => ?_⟩
  rw [i.respond_quiet]
  exact ⟨_, Outcome.response_errors _ _⟩

/-- A verbose run has told its settings before it finds no input, and then says no more than one
that is not verbose. -/
theorem runCommand_verbose_without_input :
    let read : ReadFile := fun _ => .error .notFound
    let r := runCommand ["-v", "a.pl0"] ⟨none, none, none⟩ read "0"
    r.code = 1 ∧ r.output = "" ∧
      ∃ told, r.errors =
        told ++ "error: failed to read a.pl0: No such file or directory (os error 2)\n" := by
  intro read r
  have h : Request.ofArguments ["a.pl0"] ⟨none, none, none⟩ =
      .run ⟨"a.pl0", none, false, none, false, false⟩ := by decide
  have h' : Request.ofArguments ["-v", "a.pl0"] ⟨none, none, none⟩ =
      .run ⟨"a.pl0", none, false, none, true, false⟩ := by decide
  obtain ⟨-, -, halike⟩ := runCommand_apart_from_log h read "0"
  obtain ⟨hcode, houtput, herrors⟩ := halike true false ["-v", "a.pl0"] _ "0" h'
  exact ⟨hcode.trans (by rfl), houtput.trans (by rfl), herrors false "0"⟩

end PLZero
