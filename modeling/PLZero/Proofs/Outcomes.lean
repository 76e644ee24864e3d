import PLZero.Command.Run
import PLZero.Proofs.DumpLines

/-! How a run of the command ends. Its stages are the configuration, the input and the tokens; a run
that passes all of them gives the whole dump, and any other one the report of the first stage that
fails.

* `Files` is what the paths of a system lead to; `Files.Holds` and `Files.Withholds` say what is
  read there.
* `Invocation.Configured` and `Invocation.Misconfigured`: what becomes of the configuration.
* `Invocation.Dumps` and `Invocation.Fails`: what becomes of a run; `Failure.Told` says which report
  a failure has.
* `Invocation.respond_all_or_nothing`: the response, told by these.
* `runCommand_repeats_rejection`: how a configuration is reported that gives no settings. -/
namespace PLZero
set_option autoImplicit false

/-! ## Files -/

theorem fromUTF8?_eq_some_iff {content : ByteArray} {s : String} :
    String.fromUTF8? content = some s ↔ content = s.toUTF8 := by
  unfold String.fromUTF8?
  constructor
  · intro h
    split at h
    · cases h
      rfl
    · cases h
  · rintro rfl
    rw [String.toUTF8_eq_toByteArray, dif_pos s.isValidUTF8]
    rfl

theorem fromUTF8?_eq_none_iff {content : ByteArray} :
    String.fromUTF8? content = none ↔ ¬content.IsValidUTF8 := by
  unfold String.fromUTF8?
  split <;> simp_all

/-- What each path leads to: the bytes of a file, or why there are none. -/
abbrev Files := String → Except ReadFailure ByteArray

namespace Files
variable {files : Files} {path text : String} {why : ReadFailure}

def read (files : Files) : ReadFile := fun path => files path >>= decodeText

/-- A tree of files is read in this way. -/
theorem read_bytes (t : FileTree) : read t.bytes = t.read := rfl

/-- The file at `path` can be read, and its bytes are the UTF-8 form of `text`. -/
def Holds (files : Files) (path text : String) : Prop := files path = .ok text.toUTF8

/-- There is no file at `path` that can be read, or its bytes are no UTF-8 form. -/
inductive Withholds (files : Files) (path : String) : ReadFailure → Prop
  | unreadable {why : ReadFailure} (h : files path = .error why) : Withholds files path why
  | notText {content : ByteArray} (h : files path = .ok content) (hc : ¬content.IsValidUTF8) :
      Withholds files path .notText

theorem read_of_error (h : files path = .error why) : files.read path = .error why := by
  rw [read, h]
  rfl

theorem read_of_ok {content : ByteArray} (h : files path = .ok content) :
    files.read path = decodeText content := by
  rw [read, h]
  rfl

theorem read_eq_ok_iff : files.read path = .ok text ↔ files.Holds path text := by
  unfold Holds
  cases h : files path with
  | error why =>
    rw [read_of_error h]
    simp
  | ok content =>
    rw [read_of_ok h, decodeText, Except.ok.injEq, ← fromUTF8?_eq_some_iff]
    cases String.fromUTF8? content <;> simp

theorem read_eq_error_iff : files.read path = .error why ↔ files.Withholds path why := by
  cases h : files path with
  | error reason =>
    rw [read_of_error h, Except.error.injEq]
    constructor
    · rintro rfl
      exact .unreadable h
    · rintro (h' | ⟨h', -⟩)
      · exact Except.error.inj (h.symm.trans h')
      · cases h.symm.trans h'
  | ok content =>
    rw [read_of_ok h, decodeText]
    cases hs : String.fromUTF8? content with
    | some s =>
      constructor
      · intro he
        cases he
      · rintro (h' | ⟨h', hc⟩)
        · cases h.symm.trans h'
        · cases h.symm.trans h'
          rw [← fromUTF8?_eq_none_iff, hs] at hc
          cases hc
    | none =>
      constructor
      · rintro ⟨⟩
        exact .notText h (fromUTF8?_eq_none_iff.1 hs)
      · rintro (h' | _)
        · cases h.symm.trans h'
        · rfl

end Files

/-! ## The configuration -/

namespace Invocation
variable {i j : Invocation} {files files' : Files} {s : Settings} {f : Failure} {dump : String}

/-- The run has the settings `s` from its configuration file, or the default ones if it names no
file. -/
inductive Configured (files : Files) (i : Invocation) : Settings → Prop
  | unnamed (h : i.config = none) : Configured files i ⟨.unicode, false⟩
  | accepted {path text : String} {s : Settings} (h : i.config = some path)
      (holds : files.Holds path text) (fits : Settings.ofText text = .ok s) : Configured files i s

/-- The run names a configuration file that cannot be read or gives no settings. -/
inductive Misconfigured (files : Files) (i : Invocation) : Failure → Prop
  | unreadable {path : String} {why : ReadFailure} (h : i.config = some path)
      (withholds : files.Withholds path why) :
      Misconfigured files i (.configuration ("failed to read " ++ path ++ ": " ++ why.reason))
  | unfit {path text : String} {r : Settings.Rejection} (h : i.config = some path)
      (holds : files.Holds path text) (unfit : Settings.ofText text = .error r) :
      Misconfigured files i (.settings r)

theorem loadSettings_eq_ok_iff : i.loadSettings files.read = .ok s ↔ i.Configured files s := by
  unfold loadSettings
  constructor
  · intro h
    split at h
    · next hc =>
      cases h
      exact .unnamed hc
    · next path hc =>
      split at h
      · cases h
      · next text ht =>
        cases hs : Settings.ofText text with
        | error r => rw [hs] at h; cases h
        | ok s' =>
          rw [hs] at h
          cases h
          exact .accepted hc (Files.read_eq_ok_iff.1 ht) hs
  · rintro (hc | ⟨hc, hh, hs⟩)
    · rw [hc]
      rfl
    · rw [hc]
      dsimp only
      rw [Files.read_eq_ok_iff.2 hh]
      dsimp only
      rw [hs]
      rfl

theorem loadSettings_eq_error_iff :
    i.loadSettings files.read = .error f ↔ i.Misconfigured files f := by
  unfold loadSettings
  constructor
  · intro h
    split at h
    · cases h
    · next path hc =>
      split at h
      · next why hw =>
        cases h
        exact .unreadable hc (Files.read_eq_error_iff.1 hw)
      · next text ht =>
        cases hs : Settings.ofText text with
        | error r =>
          rw [hs] at h
          cases h
          exact .unfit hc (Files.read_eq_ok_iff.1 ht) hs
        | ok s' => rw [hs] at h; cases h
  · rintro (⟨hc, hw⟩ | ⟨hc, hh, hs⟩)
    · rw [hc]
      dsimp only
      rw [Files.read_eq_error_iff.2 hw]
      rfl
    · rw [hc]
      dsimp only
      rw [Files.read_eq_ok_iff.2 hh]
      dsimp only
      rw [hs]
      rfl

/-- Only the configuration file counts. -/
theorem Misconfigured.congr (h : i.Misconfigured files f) (hconfig : j.config = i.config)
    (hfiles : ∀ path ∈ i.config, files' path = files path) : j.Misconfigured files' f := by
  cases h with
  | unreadable hc hw =>
    have hpath := hfiles _ hc
    refine .unreadable (hconfig.trans hc) ?_
    cases hw with
    | unreadable hw => exact .unreadable (hpath.trans hw)
    | notText hw hv => exact .notText (hpath.trans hw) hv
  | unfit hc hh hs => exact .unfit (hconfig.trans hc) ((hfiles _ hc).trans hh) hs

/-! ## The whole run -/

/-- The tokens of a text, for the alphabet on the command line, or else the one in the settings. -/
def tokensOf (i : Invocation) (s : Settings) (text : String) : Except Fault (Array Token) :=
  (Lexer.ofString text (i.alphabet.getD s.alphabet)).tokens.1

/-- The run passes all stages, and this is its dump: a line for each token, with the range in front
if the command line or the settings ask for ranges. -/
inductive Dumps (files : Files) (i : Invocation) : String → Prop
  | intro {s : Settings} {text : String} {ts : Array Token} (configured : i.Configured files s)
      (holds : files.Holds i.input text) (tokens : i.tokensOf s text = .ok ts) :
      Dumps files i (Text.unlines (ts.toList.map fun t =>
        if i.spans || s.spans then t.range ++ t.text else t.text))

/-- The first stage that the run does not pass fails so. -/
inductive Fails (files : Files) (i : Invocation) : Failure → Prop
  | configuration {f : Failure} (h : i.Misconfigured files f) : Fails files i f
  | input {s : Settings} {why : ReadFailure} (configured : i.Configured files s)
      (withholds : files.Withholds i.input why) : Fails files i (.input i.input why.reason)
  | tokens {s : Settings} {text : String} {fault : Fault} (configured : i.Configured files s)
      (holds : files.Holds i.input text) (tokens : i.tokensOf s text = .error fault) :
      Fails files i (.rejected ⟨fault, (Report.ofFault fault).render ⟨i.input, text⟩⟩)

theorem run_of_misconfigured (h : i.Misconfigured files f) :
    i.run files.read = ⟨[], .error f⟩ := by
  rw [run, loadSettings_eq_error_iff.2 h]

theorem run_of_withholds {why : ReadFailure} (hc : i.Configured files s)
    (hw : files.Withholds i.input why) :
    (i.run files.read).result = .error (.input i.input why.reason) := by
  rw [run, loadSettings_eq_ok_iff.2 hc]
  dsimp only
  rw [loadListing, Files.read_eq_error_iff.2 hw]

theorem run_of_holds {text : String} (hc : i.Configured files s)
    (hh : files.Holds i.input text) :
    (i.run files.read).result =
      match i.tokensOf s text with
      | .ok ts => .ok (dumpText (i.spans || s.spans) ts.toList)
      | .error fault =>
        .error (.rejected ⟨fault, (Report.ofFault fault).render ⟨i.input, text⟩⟩) := by
  rw [run, loadSettings_eq_ok_iff.2 hc]
  dsimp only
  rw [loadListing, Files.read_eq_ok_iff.2 hh]
  dsimp only
  unfold Listing.dump Listing.tokens tokensOf override
  dsimp only
  cases (Lexer.ofString text (i.alphabet.getD s.alphabet)).tokens.1 <;> rfl

theorem dumps_or_fails (i : Invocation) (files : Files) :
    (∃ dump, i.Dumps files dump) ∨ ∃ f, i.Fails files f := by
  cases hs : i.loadSettings files.read with
  | error f => exact .inr ⟨f, .configuration (loadSettings_eq_error_iff.1 hs)⟩
  | ok s =>
    have hc := loadSettings_eq_ok_iff.1 hs
    cases ht : files.read i.input with
    | error why => exact .inr ⟨_, .input hc (Files.read_eq_error_iff.1 ht)⟩
    | ok text =>
      have hh := Files.read_eq_ok_iff.1 ht
      cases hr : i.tokensOf s text with
      | ok ts => exact .inl ⟨_, .intro hc hh hr⟩
      | error fault => exact .inr ⟨_, .tokens hc hh hr⟩

theorem Dumps.run_result (h : i.Dumps files dump) : (i.run files.read).result = .ok dump := by
  cases h with
  | intro hc hh ht =>
    rw [run_of_holds hc hh, ht]
    simp only [dumpText_eq_unlines, Token.line_eq]

theorem Fails.run_result (h : i.Fails files f) : (i.run files.read).result = .error f := by
  cases h with
  | configuration h => rw [run_of_misconfigured h]
  | input hc hw => exact run_of_withholds hc hw
  | tokens hc hh ht => rw [run_of_holds hc hh, ht]

end Invocation

/-! ## The log of a run that is not asked for one -/

theorem Filter.standard_shows (e : Event) : Filter.standard.shows e = false := by
  cases e <;> rfl

theorem Outcome.logText_standard (o : Outcome) (coloured : Bool) (time : String) :
    o.logText .standard coloured time = "" := by
  have hnone : o.events.filter Filter.standard.shows = [] :=
    List.filter_eq_nil_iff.2 fun e _ => by rw [Filter.standard_shows]; exact Bool.false_ne_true
  rw [logText, hnone]
  rfl

/-! ## Reports -/

theorem Failure.settings_console (r : Settings.Rejection) :
    (Failure.settings r).console =
      "error: " ++ (Failure.settings r).message ++ (": " ++ r.text ++ "\n") := by
  have hjoin : String.intercalate ": " [(Failure.settings r).message, r.text] =
      (Failure.settings r).message ++ ": " ++ r.text := rfl
  rw [Failure.console, Failure.cause?, Option.toList, hjoin]
  · simp only [String.append_assoc]
  · intro s hs
    cases hs

/-- What is reported of a failure, at the end of the error output. What follows on the text of a
rejected configuration is left open. -/
inductive Failure.Told : Failure → String → Prop
  | configuration (m : String) :
      Told (.configuration m) ("error: " ++ ("configuration error: " ++ m) ++ "\n")
  | settings (r : Settings.Rejection) (rest : String) :
      Told (.settings r) ("error: " ++ ("invalid configuration: " ++ r.text) ++ rest)
  | input (path reason : String) :
      Told (.input path reason) ("error: " ++ ("failed to read " ++ path ++ ": " ++ reason) ++ "\n")
  | rejected (r : Rejected) : Told (.rejected r) (r.report ++ "\n")

theorem Failure.told_console (f : Failure) : f.Told f.console := by
  cases f with
  | configuration m => exact .configuration m
  | settings r =>
    rw [settings_console]
    exact .settings r _
  | input path reason => exact .input path reason
  | rejected r => exact .rejected r

/-! ## The response -/

namespace Invocation
variable {i : Invocation} {files : Files} {f : Failure} {dump : String}

/-- What the run writes to the log. -/
def log (i : Invocation) (filter : Option String) (files : Files) (time : String) : String :=
  (i.run files.read).logText (.ofRun i.verbose filter) (!i.noColour) time

theorem log_quiet (hv : i.verbose = false) (time : String) : i.log none files time = "" := by
  rw [log, hv]
  exact Outcome.logText_standard _ _ _

theorem Dumps.respond (h : i.Dumps files dump) (filter : Option String) (time : String) :
    i.respond filter files.read time = ⟨0, dump, i.log filter files time⟩ := by
  rw [Invocation.respond, Outcome.response, h.run_result]
  rfl

theorem Fails.respond (h : i.Fails files f) (filter : Option String) (time : String) :
    i.respond filter files.read time = ⟨1, "", i.log filter files time ++ f.console⟩ := by
  rw [Invocation.respond, Outcome.response, h.run_result]
  rfl

theorem Misconfigured.respond (h : i.Misconfigured files f) (filter : Option String)
    (time : String) : i.respond filter files.read time = ⟨1, "", f.console⟩ := by
  have hlog : i.log filter files time = "" := by
    rw [log, run_of_misconfigured h]
    rfl
  rw [(Fails.configuration h).respond, hlog, String.empty_append]

/-- **A run is all or nothing.** The exit code is 0 exactly if all stages are passed, and the output
is then the whole dump. In every other case the exit code is 1, there is no output, and the report
of the first stage that fails ends the error output; only a log stands before it. If that stage is
the configuration, nothing but the configuration file counts. -/
theorem respond_all_or_nothing (i : Invocation) (files : Files) (filter : Option String)
    (time : String) :
    let r := i.respond filter files.read time
    (r.code = 0 ↔ ∃ dump, i.Dumps files dump) ∧
    (∀ dump, i.Dumps files dump → r.output = dump) ∧
    (r.code ≠ 0 → r.code = 1 ∧ r.output = "" ∧ ∃ f, i.Fails files f) ∧
    (∀ f, i.Fails files f → r.code = 1 ∧ f.Told f.console ∧ ∃ log, r.errors = log ++ f.console ∧
      (i.verbose = false → filter = none → log = "")) ∧
    ∀ f, i.Misconfigured files f → ∀ (j : Invocation) (files' : Files) (filter' : Option String)
      (time' : String), j.config = i.config → (∀ path ∈ i.config, files' path = files path) →
      j.respond filter' files'.read time' = r := by
  intro r
  have hfails : ∀ f, i.Fails files f → r = ⟨1, "", i.log filter files time ++ f.console⟩ :=
    fun f hf => hf.respond filter time
  have hdumps : ∀ dump, i.Dumps files dump → r = ⟨0, dump, i.log filter files time⟩ :=
    fun dump hd => hd.respond filter time
  refine ⟨⟨fun h => ?_, ?_⟩, fun dump hd => by rw [hdumps dump hd], fun h => ?_,
    fun f hf => ⟨by rw [hfails f hf], f.told_console, i.log filter files time,
      by rw [hfails f hf], ?_⟩, ?_⟩
  · rcases i.dumps_or_fails files with hd | ⟨f, hf⟩
    · exact hd
    · rw [hfails f hf] at h
      cases h
  · rintro ⟨dump, hd⟩
    rw [hdumps dump hd]
  · rcases i.dumps_or_fails files with ⟨dump, hd⟩ | ⟨f, hf⟩
    · rw [hdumps dump hd] at h
      exact absurd rfl h
    · rw [hfails f hf]
      exact ⟨rfl, rfl, f, hf⟩
  · rintro hv rfl
    exact log_quiet hv time
  · intro f hm j files' filter' time' hconfig hfiles
    rw [(hm.congr hconfig hfiles).respond]
    exact (hm.respond filter time).symm

end Invocation

/-! ## A configuration that gives no settings

Its message has the text of the rejection in it, and the text is also its cause. -/

section
variable {args : List String} {env : Environment} {i : Invocation} {files : Files}
  {path text : String} {r : Settings.Rejection}

theorem Failure.settings_console_ne (r : Settings.Rejection) :
    (Failure.settings r).console ≠ "error: " ++ (Failure.settings r).message ++ "\n" := by
  intro h
  rw [Failure.settings_console] at h
  have hrest := congrArg String.length (String.append_right_inj _ |>.1 h)
  simp only [String.length_append] at hrest
  have hcolon : ": ".length = 2 := by decide
  have hend : "\n".length = 1 := by decide
  omega

theorem runCommand_of_rejection (hi : Request.ofArguments args env = .run i)
    (hc : i.config = some path) (hh : files.Holds path text) (hs : Settings.ofText text = .error r)
    (time : String) :
    runCommand args env files.read time = ⟨1, "", (Failure.settings r).console⟩ := by
  rw [runCommand, hi]
  exact (Invocation.Misconfigured.unfit hc hh hs).respond env.log time

theorem Settings.ofText_unknown_section :
    ofText "x=1\n" =
      .error (.misfit ⟨.unknownField "x" ["lexer", "output"], ⟨0, 1, 1, 1⟩⟩ "x=1\n") := by
  decide +kernel

/-- **A rejected configuration is reported twice.** Whatever the input and the other arguments, the
error output is not the message of the failure alone: the text of the rejection is the end of the
message, and stands behind it once more as its cause. -/
theorem runCommand_repeats_rejection (hi : Request.ofArguments args env = .run i)
    (hc : i.config = some path) (hh : files.Holds path text) (hs : Settings.ofText text = .error r)
    (time : String) :
    let response := runCommand args env files.read time
    response.code = 1 ∧ response.output = "" ∧
    response.errors =
      "error: " ++ ("invalid configuration: " ++ r.text) ++ (": " ++ r.text ++ "\n") ∧
    response.errors ≠ "error: " ++ (Failure.settings r).message ++ "\n" := by
  intro response
  have hresponse : response = ⟨1, "", (Failure.settings r).console⟩ :=
    runCommand_of_rejection hi hc hh hs time
  rw [hresponse]
  exact ⟨rfl, rfl, Failure.settings_console r, Failure.settings_console_ne r⟩

end

theorem runCommand_repeats_unknown_section :
    let files : Files := fun path =>
      if path = "c.toml" then .ok "x=1\n".toUTF8 else .error .notFound
    (runCommand ["-c", "c.toml", "a.pl0"] ⟨none, none, none⟩ files.read "0").errors =
      "error: invalid configuration: TOML parse error at line 1, column 1\n  |\n1 | x=1\n  | ^\n" ++
      "unknown field \x60x\x60, expected \x60lexer\x60 or \x60output\x60\n: " ++
      "TOML parse error at line 1, column 1\n  |\n1 | x=1\n  | ^\n" ++
      "unknown field \x60x\x60, expected \x60lexer\x60 or \x60output\x60\n\n" := by
  intro files
  have hi : Request.ofArguments ["-c", "c.toml", "a.pl0"] ⟨none, none, none⟩ =
      .run ⟨"a.pl0", none, false, some "c.toml", false, false⟩ := by decide
  have hh : files.Holds "c.toml" "x=1\n" := rfl
  obtain ⟨-, -, herrors, -⟩ :=
    runCommand_repeats_rejection hi rfl hh Settings.ofText_unknown_section "0"
  rw [herrors]
  decide +kernel

/-- A configuration that is rejected is not reported by its message alone. -/
theorem not_reported_by_message :
    ¬∀ (args : List String) (env : Environment) (i : Invocation) (files : Files)
      (path text time : String) (r : Settings.Rejection),
      Request.ofArguments args env = .run i → i.config = some path → files.Holds path text →
      Settings.ofText text = .error r →
      (runCommand args env files.read time).errors =
        "error: " ++ (Failure.settings r).message ++ "\n" := by
  intro h
  let files : Files := fun path =>
    if path = "c.toml" then .ok "x=1\n".toUTF8 else .error .notFound
  have hi : Request.ofArguments ["-c", "c.toml", "a.pl0"] ⟨none, none, none⟩ =
      .run ⟨"a.pl0", none, false, some "c.toml", false, false⟩ := by decide
  have hh : files.Holds "c.toml" "x=1\n" := rfl
  have hs := Settings.ofText_unknown_section
  have honce := h _ _ _ files _ _ "0" _ hi rfl hh hs
  rw [runCommand_of_rejection hi rfl hh hs] at honce
  exact Failure.settings_console_ne _ honce

end PLZero
