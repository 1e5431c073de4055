import Sct.Lib.Groovy
import Sct.Lib.Search
import Sct.Trigger.Groovy

/-!
# What the trigger script is read as

The escape doubles backslashes and escapes single quotes. In single quotes only the ends of lines
are left that a literal cannot hold; in double quotes a double quote still ends the literal and a
dollar starts a reference.
-/

namespace Sct.Trigger

open Sct.Scan Sct.Groovy
open List
open String (toList_append toList_ofList)

/-! ## The escape -/

def escapeChar (char : Char) : List Char :=
  if char = '\\' then ['\\', '\\'] else if char = '\'' then ['\\', '\''] else [char]

variable (value : String)

lemma toList_escapeGroovyString :
    (escapeGroovyString value).toList = value.toList.flatMap escapeChar := by
  rw [escapeGroovyString, toList_ofList, replace_char, replace_char, flatMap_assoc]
  congr 1
  funext char
  unfold escapeChar
  by_cases backslash : char = '\\'
  · subst backslash
    rfl
  · rw [if_neg backslash, if_neg backslash, flatMap_singleton]

/-- A character a literal can hold once it is escaped. -/
def holds (quote : Quote) (char : Char) : Bool :=
  char ≠ '\n' && char ≠ '\r' && (quote = .single || (char ≠ '"' && char ≠ '$'))

def HoldsText (quote : Quote) (text : String) : Prop :=
  ∀ char ∈ text.toList, holds quote char = true

variable {quote : Quote} {char : Char}

lemma writes_escapeChar (held : holds quote char = true) :
    Writes quote char (escapeChar char) := by
  unfold escapeChar
  split
  · rename_i backslash
    subst backslash
    exact writes_escaped rfl
  · split
    · rename_i apostrophe
      subst apostrophe
      exact writes_escaped rfl
    · rename_i backslash apostrophe
      simp only [holds, Bool.and_eq_true, decide_eq_true_eq, Bool.or_eq_true] at held
      obtain ⟨⟨feed, carriage⟩, other⟩ := held
      apply writes_self feed carriage backslash
      · cases quote with
        | single => exact apostrophe
        | double => exact (other.resolve_left (by decide)).1
      · rintro rfl
        exact (other.resolve_left (by decide)).2

/-! ## Literals of the script -/

/-- A literal with an escaped text, and the character after it. -/
def literalPiece (quote : Quote) (text : List Char) (next : Char) : Piece where
  text := quoted quote (text.flatMap escapeChar) ++ [next]
  tokens := [.text text, .code next]

lemma head?_escaped {text rest : List Char} (held : ∀ char ∈ text, holds quote char = true)
    (head : text = [] → rest.head? ≠ some quote.char) :
    (text.flatMap escapeChar ++ rest).head? ≠ some quote.char := by
  cases text with
  | nil => exact head rfl
  | cons char more =>
    have first := held char mem_cons_self
    have escaped : some '\\' ≠ some quote.char := by cases quote <;> decide
    rw [flatMap_cons, escapeChar]
    split
    · exact escaped
    · split
      · exact escaped
      · rename_i backslash apostrophe
        intro same
        have closes : char = quote.char := Option.some.inj same
        cases quote with
        | single => exact apostrophe closes
        | double =>
          subst closes
          exact absurd first (by decide)

variable {text : List Char} {next : Char}

lemma literalPiece_isRead (plain : Plain next) (held : ∀ char ∈ text, holds quote char = true) :
    (literalPiece quote text next).IsRead := by
  have inside := run_flatMap (fun char listed => writes_escapeChar (held char listed)) [] []
  have head : (text.flatMap escapeChar).head? ≠ some quote.char := by
    rw [← append_nil (text.flatMap escapeChar)]
    exact head?_escaped held fun _ => nofun
  exact reads_quoted inside head plain

variable {bad : Char}

lemma exists_first_unheld (listed : bad ∈ text) (unheld : holds quote bad = false) :
    ∃ before first after, text = before ++ first :: after ∧ holds quote first = false ∧
      ∀ char ∈ before, holds quote char = true := by
  induction text with
  | nil => cases listed
  | cons char rest ih =>
    cases held : holds quote char with
    | false => exact ⟨[], char, rest, rfl, held, nofun⟩
    | true =>
      have later : bad ∈ rest := by
        rcases mem_cons.mp listed with rfl | later
        · rw [held] at unheld
          cases unheld
        · exact later
      obtain ⟨before, first, after, split, refused, all⟩ := ih later
      refine ⟨char :: before, first, after, ?_, refused, forall_mem_cons.mpr ⟨held, all⟩⟩
      rw [split, cons_append]

lemma escapeChar_of_unheld (unheld : holds quote bad = false) :
    escapeChar bad = [bad] := by
  have backslash : bad ≠ '\\' := by
    rintro rfl
    cases quote <;> cases unheld
  have apostrophe : bad ≠ '\'' := by
    rintro rfl
    cases quote <;> cases unheld
  rw [escapeChar, if_neg backslash, if_neg apostrophe]

lemma step_unheld (unheld : holds quote bad = false) {value : List Char} {next : Reader}
    {tokens : List Token} (read : step ⟨.literal quote value, []⟩ bad = some (next, tokens)) :
    tokens = [.text value] ∨ tokens = [.cut value] := by
  rw [step_literal, stepLiteral] at read
  split at read
  · cases read
  · rename_i lineEnd
    split at read
    · rename_i backslash
      subst backslash
      cases quote <;> cases unheld
    · split at read
      · cases read
        exact Or.inl rfl
      · rename_i closes
        split at read
        · cases read
          exact Or.inr rfl
        · rw [not_or] at lineEnd
          cases quote with
          | single => simp [holds, lineEnd] at unheld
          | double =>
            have double : bad ≠ '"' := closes
            simp_all [holds]

lemma literalPiece_misread (listed : bad ∈ text) (unheld : holds quote bad = false)
    (head : quote = .double → text.head? ≠ some '"') :
    Misread (literalPiece quote text next).text (.text text) := by
  obtain ⟨before, first, after, rfl, refused, held⟩ := exists_first_unheld listed unheld
  have inside := run_flatMap (fun char listed => writes_escapeChar (held char listed)) [] []
  have start : (before.flatMap escapeChar ++ [first]).head? ≠ some quote.char := by
    refine head?_escaped held fun nothing same => ?_
    subst nothing
    cases quote with
    | single =>
      cases same
      cases refused
    | double => exact head rfl same
  have shape : (literalPiece quote (before ++ first :: after) next).text =
      quote.char :: (before.flatMap escapeChar ++
        first :: (after.flatMap escapeChar ++ [quote.char, next])) := by
    simp [literalPiece, quoted, flatMap_cons, escapeChar_of_unheld refused]
  rw [shape]
  refine misread_quoted inside start fun reader tokens read => ?_
  rcases step_unheld refused read with rfl | rfl
  · refine ⟨_, [], rfl, fun same => ?_⟩
    have shorter := congrArg List.length (Token.text.inj same)
    simp at shorter
  · exact ⟨_, [], rfl, fun same => by cases same⟩

/-! ## The script -/

def templatePiece (text : String) : Piece where
  text := text.toList
  tokens := ((run Groovy.start text.toList).map Prod.snd).getD []

def parameterPieces (parameter : String × ParamValue) : List Piece :=
  [templatePiece "new StringParameterValue(", literalPiece .single parameter.1.toList ',',
    templatePiece " ", literalPiece .single parameter.2.str.toList ')']

def paramsPieces (parameters : Params) : List Piece :=
  [templatePiece ", "].intercalate (parameters.entries.map parameterPieces)

def causePieces (upstream : Upstream) : List Piece :=
  if upstream.job ≠ "" ∧ upstream.build ≠ "" then
    [templatePiece "\ndef upstreamJob = Jenkins.instance.getItemByFullName(",
      literalPiece .single upstream.job.toList ')',
      templatePiece "\ndef upstreamBuild = upstreamJob?.getBuildByNumber(",
      ⟨upstream.build.toList, upstream.build.toList.map .code⟩,
      templatePiece ")\ndef cause\nif (upstreamBuild) \x7b\n",
      templatePiece
        "    cause = new hudson.model.Cause.UpstreamCause((hudson.model.Run) upstreamBuild)\n",
      templatePiece "\x7d else \x7b\n    cause = new hudson.model.Cause.RemoteCause(",
      literalPiece .single upstream.job.toList ',', templatePiece " ",
      literalPiece .single
        ("Build #".toList ++ (upstream.build.toList ++ " (upstream build not found)".toList)) ')',
      templatePiece "\n\x7d\n"]
  else
    [templatePiece "\ndef cause = new hudson.model.Cause.RemoteCause('trigger-matrix', ",
      templatePiece "'Triggered via SCT trigger-matrix CLI')\n"]

def outputPieces (returnQueueUrl : Bool) : List Piece :=
  if returnQueueUrl then
    [templatePiece "\ndef rootUrl = Jenkins.instance.rootUrl ?: ''\n",
      templatePiece "println \"TRIGGERED:$\x7brootUrl\x7dqueue/item/$\x7bqueueItem.id\x7d/\"\n"]
  else [templatePiece "\nprintln \"TRIGGERED:$\x7btargetJob.getAbsoluteUrl()\x7d\"\n"]

def jobPieces (jobName : String) : List Piece :=
  [templatePiece "\nimport jenkins.model.Jenkins\nimport hudson.model.*\n\n",
    templatePiece "def targetJob = Jenkins.instance.getItemByFullName(",
    literalPiece .single jobName.toList ')',
    templatePiece "\nif (!targetJob) \x7b\n    println ",
    literalPiece .double ("ERROR: Job not found: ".toList ++ jobName.toList) '\n',
    templatePiece "    return\n\x7d\n"]

def queuePieces : List Piece :=
  [templatePiece
      "]\ndef actions = []\nif (params) \x7b\n    actions.add(new ParametersAction(params))\n\x7d\n",
    templatePiece "actions.add(new CauseAction(cause))\n\n",
    templatePiece "def queueItem = targetJob.isBuildable() ? ",
    templatePiece "Jenkins.instance.queue.schedule2(targetJob, 0, actions).item : null\n",
    templatePiece "if (queueItem != null) \x7b\n"]

def unqueuedPieces (jobName : String) : List Piece :=
  [templatePiece "\n\x7d else \x7b\n    println ",
    literalPiece .double ("ERROR: build was not queued for ".toList ++ jobName.toList) '\n',
    templatePiece "\x7d\n"]

/-- The pieces of `buildTriggerGroovy`: every literal with a name or a value has it as its text. -/
def scriptPieces (jobName : String) (parameters : Params) (returnQueueUrl : Bool)
    (upstream : Upstream) : List Piece :=
  jobPieces jobName ++ causePieces upstream ++ [templatePiece "\ndef params = ["] ++
    paramsPieces parameters ++ queuePieces ++ outputPieces returnQueueUrl ++
    unqueuedPieces jobName

/-! ### The text of the pieces -/

lemma flatMap_escapeChar (backslash : '\\' ∉ text) (apostrophe : '\'' ∉ text) :
    text.flatMap escapeChar = text := by
  induction text with
  | nil => rfl
  | cons char rest ih =>
    rw [mem_cons, not_or] at backslash apostrophe
    rw [flatMap_cons, ih backslash.2 apostrophe.2, escapeChar,
      if_neg (Ne.symm backslash.1), if_neg (Ne.symm apostrophe.1)]
    rfl

lemma text_singleQuoted (next : Char) :
    (literalPiece .single value.toList next).text =
      "'".toList ++ (escapeGroovyString value).toList ++ ['\'', next] := by
  have quote : "'".toList = ['\''] := toList_ofList
  rw [quote, toList_escapeGroovyString]
  simp [literalPiece, quoted, Quote.char]

lemma text_message (front value : String) (plain : front.toList.flatMap escapeChar = front.toList) :
    (literalPiece .double (front.toList ++ value.toList) '\n').text =
      "\"".toList ++ front.toList ++ (escapeGroovyString value).toList ++ "\"\n".toList := by
  have quote : "\"".toList = ['"'] := toList_ofList
  have ending : "\"\n".toList = ['"', '\n'] := toList_ofList
  rw [quote, ending, toList_escapeGroovyString]
  simp [literalPiece, quoted, Quote.char, plain]

variable (parameter : String × ParamValue)

lemma text_parameterPieces :
    (parameterPieces parameter).flatMap Piece.text = (parameterGroovy parameter).toList := by
  have between : "', '".toList = ['\'', ','] ++ (" ".toList ++ "'".toList) := toList_ofList
  have closing : "')".toList = ['\'', ')'] := toList_ofList
  unfold parameterGroovy parameterPieces
  simp only [toList_append, flatMap_cons, flatMap_nil, text_singleQuoted,
    templatePiece, between, closing, append_assoc, append_nil]

lemma text_paramsPieces (parameters : Params) :
    (paramsPieces parameters).flatMap Piece.text = (paramsGroovy parameters).toList := by
  unfold paramsPieces paramsGroovy
  induction parameters.entries with
  | nil => rfl
  | cons parameter rest ih =>
    cases rest with
    | nil =>
      rw [map_singleton, map_singleton, String.intercalate_singleton,
        ← text_parameterPieces]
      simp
    | cons next more =>
      simp only [map_cons] at ih ⊢
      rw [String.intercalate_cons_cons, toList_append, toList_append, ← ih,
        ← text_parameterPieces]
      simp [intercalate_cons_cons, templatePiece]

variable (jobName : String) (returnQueueUrl : Bool) (upstream : Upstream)

lemma escaped_build :
    ("Build #".toList ++ (upstream.build.toList ++
        " (upstream build not found)".toList)).flatMap escapeChar =
      "Build #".toList ++ (upstream.build.toList ++ " (upstream build not found)".toList) := by
  have front : "Build #".toList = _ := toList_ofList
  have back : " (upstream build not found)".toList = _ := toList_ofList
  have digits : ∀ {char : Char}, isDigit char = false → char ∉ upstream.build.toList :=
    fun other listed => by
      rw [upstream.digits _ listed] at other
      cases other
  have absent : ∀ {char : Char}, isDigit char = false → char ∉ "Build #".toList →
      char ∉ " (upstream build not found)".toList →
        char ∉ "Build #".toList ++ (upstream.build.toList ++
          " (upstream build not found)".toList) := by
    intro char other first last
    simp only [mem_append, not_or]
    exact ⟨first, digits other, last⟩
  apply flatMap_escapeChar
  · apply absent (by decide)
    · decide
    · rw [back]
      decide
  · apply absent (by decide)
    · decide
    · rw [back]
      decide

lemma text_causePieces :
    (causePieces upstream).flatMap Piece.text = (causeSection upstream).toList := by
  have between : "', '".toList = ['\'', ','] ++ (" ".toList ++ "'".toList) := toList_ofList
  have closing : "')".toList = ['\'', ')'] := toList_ofList
  have quote : "'".toList = ['\''] := toList_ofList
  have build : (literalPiece .single ("Build #".toList ++ (upstream.build.toList ++
        " (upstream build not found)".toList)) ')').text =
      "'".toList ++ ("Build #".toList ++ (upstream.build.toList ++
        " (upstream build not found)".toList)) ++ ['\'', ')'] := by
    rw [literalPiece, quoted, escaped_build, quote]
    simp [Quote.char]
  unfold causePieces causeSection
  split
  · simp only [toList_append, flatMap_cons, flatMap_nil, text_singleQuoted, build,
      templatePiece, between, closing, append_assoc, append_nil]
  · simp only [toList_append, flatMap_cons, flatMap_nil, templatePiece,
      append_nil]

lemma text_outputPieces :
    (outputPieces returnQueueUrl).flatMap Piece.text = (outputSection returnQueueUrl).toList := by
  unfold outputPieces outputSection
  split
  · simp only [toList_append, flatMap_cons, flatMap_nil, templatePiece,
      append_nil]
  · simp only [flatMap_cons, flatMap_nil, templatePiece, append_nil]

lemma text_scriptPieces (parameters : Params) (returnQueueUrl : Bool) (upstream : Upstream) :
    (scriptPieces jobName parameters returnQueueUrl upstream).flatMap Piece.text =
      (buildTriggerGroovy jobName parameters returnQueueUrl upstream).toList := by
  have missing : "ERROR: Job not found: ".toList.flatMap escapeChar =
      "ERROR: Job not found: ".toList := by
    rw [show "ERROR: Job not found: ".toList = _ from toList_ofList]
    rfl
  have unqueued : "ERROR: build was not queued for ".toList.flatMap escapeChar =
      "ERROR: build was not queued for ".toList := by
    rw [show "ERROR: build was not queued for ".toList = _ from toList_ofList]
    rfl
  have closing : "')".toList = ['\'', ')'] := toList_ofList
  unfold buildTriggerGroovy scriptPieces jobPieces queuePieces unqueuedPieces
  simp only [flatMap_append, flatMap_cons, flatMap_nil, text_causePieces,
    text_paramsPieces, text_outputPieces, text_singleQuoted, text_message _ _ missing,
    text_message _ _ unqueued, toList_append, templatePiece, closing, append_assoc,
    append_nil]

/-! ## What the script is read as -/

lemma readWhen_literalPiece (plain : Plain next)
    (head : quote = .double → text.head? ≠ some '"') :
    ReadWhen [literalPiece quote text next] (∀ char ∈ text, holds quote char = true) := by
  by_cases held : ∀ char ∈ text, holds quote char = true
  · have read := literalPiece_isRead plain held
    exact (ReadWhen.cons read readWhen_nil).congr (iff_of_true trivial held)
  · obtain ⟨bad, unheld⟩ := not_forall.mp held
    obtain ⟨listed, unheld⟩ := Classical.not_imp.mp unheld
    have misread : Misread (literalPiece quote text next).text (.text text) :=
      literalPiece_misread listed (Bool.eq_false_iff.mpr unheld) head
    refine ⟨forall_mem_singleton.mpr (Or.inr ⟨_, _, rfl, misread⟩), iff_of_false ?_ held⟩
    rw [forall_mem_singleton]
    exact misread.not_reads

variable {chars : List Char}

lemma templatePiece_isRead (closed : (run Groovy.start chars).map Prod.fst = some Groovy.start) :
    (templatePiece (String.ofList chars)).IsRead := by
  unfold Piece.IsRead templatePiece Reads
  rw [toList_ofList]
  cases read : run Groovy.start chars with
  | none =>
    rw [read] at closed
    cases closed
  | some last =>
    rw [read] at closed
    have ended : last.1 = Groovy.start := Option.some.inj closed
    rw [Option.map_some, Option.getD_some, ← ended]

lemma readWhen_template {pieces : List Piece} {condition : Prop}
    (closed : (run Groovy.start chars).map Prod.fst = some Groovy.start)
    (rest : ReadWhen pieces condition) :
    ReadWhen (templatePiece (String.ofList chars) :: pieces) condition :=
  ReadWhen.cons (templatePiece_isRead closed) rest

lemma readWhen_singleQuoted (plain : Plain next) :
    ReadWhen [literalPiece .single value.toList next] (HoldsText .single value) :=
  readWhen_literalPiece plain nofun

lemma readWhen_message {front : String} {first : Char} {rest : List Char}
    (spelled : front.toList = first :: rest) (start : first ≠ '"')
    (held : ∀ char ∈ first :: rest, holds .double char = true) (jobName : String) :
    ReadWhen [literalPiece .double (front.toList ++ jobName.toList) '\n']
      (HoldsText .double jobName) := by
  have plain : Plain '\n' := ⟨by decide, by decide, by decide⟩
  have head : (first :: rest ++ jobName.toList).head? ≠ some '"' :=
    fun same => start (Option.some.inj same)
  rw [spelled]
  refine (readWhen_literalPiece plain fun _ => head).congr ?_
  rw [forall_mem_append, and_iff_right held]
  rfl

lemma readWhen_parameterPieces :
    ReadWhen (parameterPieces parameter)
      (HoldsText .single parameter.1 ∧ HoldsText .single parameter.2.str) := by
  have comma : Plain ',' := ⟨by decide, by decide, by decide⟩
  have bracket : Plain ')' := ⟨by decide, by decide, by decide⟩
  apply readWhen_template rfl
  apply (readWhen_singleQuoted parameter.1 comma).append
  apply readWhen_template rfl
  exact readWhen_singleQuoted parameter.2.str bracket

lemma readWhen_paramsPieces (parameters : Params) :
    ReadWhen (paramsPieces parameters) (∀ parameter ∈ parameters.entries,
      HoldsText .single parameter.1 ∧ HoldsText .single parameter.2.str) := by
  unfold paramsPieces
  induction parameters.entries with
  | nil => exact readWhen_nil.congr (iff_of_true trivial nofun)
  | cons parameter rest ih =>
    rw [forall_mem_cons]
    cases rest with
    | nil =>
      have one := (readWhen_parameterPieces parameter).append readWhen_nil
      exact one.congr (and_congr_right fun _ => iff_of_true trivial nofun)
    | cons next more =>
      apply (readWhen_parameterPieces parameter).append
      exact readWhen_template rfl ih

lemma plain_of_isDigit (digit : isDigit char = true) :
    Plain char ∧ holds .single char = true := by
  have other : ∀ special, isDigit special = false → char ≠ special := by
    rintro special none rfl
    rw [digit] at none
    cases none
  refine ⟨⟨other _ (by decide), other _ (by decide), other _ (by decide)⟩, ?_⟩
  simp only [holds, Bool.and_eq_true, decide_eq_true_eq, decide_true, Bool.true_or, and_true]
  exact ⟨other _ (by decide), other _ (by decide)⟩

lemma readWhen_causePieces :
    ReadWhen (causePieces upstream) (upstream.build ≠ "" → HoldsText .single upstream.job) := by
  have comma : Plain ',' := ⟨by decide, by decide, by decide⟩
  have bracket : Plain ')' := ⟨by decide, by decide, by decide⟩
  have number : Piece.IsRead ⟨upstream.build.toList, upstream.build.toList.map .code⟩ :=
    reads_plain fun char listed => (plain_of_isDigit (upstream.digits char listed)).1
  have build : (literalPiece .single ("Build #".toList ++ (upstream.build.toList ++
      " (upstream build not found)".toList)) ')').IsRead := by
    have front : "Build #".toList = _ := toList_ofList
    have back : " (upstream build not found)".toList = _ := toList_ofList
    apply literalPiece_isRead bracket
    rw [forall_mem_append, forall_mem_append, front, back]
    refine ⟨all_eq_true.mp rfl, fun char listed => ?_, all_eq_true.mp rfl⟩
    exact (plain_of_isDigit (upstream.digits char listed)).2
  unfold causePieces
  split
  · rename_i used
    have twice : HoldsText .single upstream.job ∧ HoldsText .single upstream.job ↔
        (upstream.build ≠ "" → HoldsText .single upstream.job) :=
      ⟨fun held _ => held.1, fun held => ⟨held used.2, held used.2⟩⟩
    apply ReadWhen.congr _ twice
    apply readWhen_template rfl
    apply (readWhen_singleQuoted upstream.job bracket).append
    apply readWhen_template rfl
    apply ReadWhen.cons number
    apply readWhen_template rfl
    apply readWhen_template rfl
    apply readWhen_template rfl
    refine ((readWhen_singleQuoted upstream.job comma).append ?_).congr (and_iff_left trivial)
    apply readWhen_template rfl
    apply ReadWhen.cons build
    exact readWhen_template rfl readWhen_nil
  · rename_i unused
    have held : upstream.build ≠ "" → HoldsText .single upstream.job := by
      intro numbered
      have empty : upstream.job = "" := by
        by_contra named
        exact unused ⟨named, numbered⟩
      rw [HoldsText, empty]
      exact nofun
    apply ReadWhen.congr _ (iff_of_true trivial held)
    apply readWhen_template rfl
    exact readWhen_template rfl readWhen_nil

lemma readWhen_outputPieces : ReadWhen (outputPieces returnQueueUrl) True := by
  unfold outputPieces
  split
  · apply readWhen_template rfl
    exact readWhen_template rfl readWhen_nil
  · exact readWhen_template rfl readWhen_nil

lemma readWhen_jobPieces :
    ReadWhen (jobPieces jobName)
      (HoldsText .single jobName ∧ HoldsText .double jobName ∧ True) := by
  apply readWhen_template rfl
  apply readWhen_template rfl
  apply (readWhen_singleQuoted jobName ⟨by decide, by decide, by decide⟩).append
  apply readWhen_template rfl
  apply (readWhen_message toList_ofList (by decide) (all_eq_true.mp rfl) jobName).append
  exact readWhen_template rfl readWhen_nil

lemma readWhen_queuePieces : ReadWhen queuePieces True := by
  apply readWhen_template rfl
  apply readWhen_template rfl
  apply readWhen_template rfl
  apply readWhen_template rfl
  exact readWhen_template rfl readWhen_nil

lemma readWhen_unqueuedPieces :
    ReadWhen (unqueuedPieces jobName) (HoldsText .double jobName ∧ True) := by
  apply readWhen_template rfl
  apply (readWhen_message toList_ofList (by decide) (all_eq_true.mp rfl) jobName).append
  exact readWhen_template rfl readWhen_nil

/-- The script is read with every name and value as it was given. -/
def ReadAsGiven (jobName : String) (parameters : Params) (returnQueueUrl : Bool)
    (upstream : Upstream) : Prop :=
  Groovy.read (buildTriggerGroovy jobName parameters returnQueueUrl upstream).toList =
    some ((scriptPieces jobName parameters returnQueueUrl upstream).flatMap Piece.tokens)

/-- The literals can hold the names and values put into them. -/
structure Fits (jobName : String) (parameters : Params) (upstream : Upstream) : Prop where
  job : HoldsText .double jobName
  parameters : ∀ parameter ∈ parameters.entries,
    HoldsText .single parameter.1 ∧ HoldsText .single parameter.2.str
  upstream : upstream.build ≠ "" → HoldsText .single upstream.job

lemma HoldsText.single {text : String} (held : HoldsText .double text) :
    HoldsText .single text := by
  intro char listed
  have double := held char listed
  simp only [holds, Bool.and_eq_true] at double ⊢
  exact ⟨double.1, rfl⟩

lemma readWhen_scriptPieces (parameters : Params) (returnQueueUrl : Bool) (upstream : Upstream) :
    ReadWhen (scriptPieces jobName parameters returnQueueUrl upstream)
      (Fits jobName parameters upstream) := by
  have params : ReadWhen [templatePiece "\ndef params = ["] True :=
    readWhen_template rfl readWhen_nil
  have script := ((((((readWhen_jobPieces jobName).append (readWhen_causePieces upstream)).append
    params).append (readWhen_paramsPieces parameters)).append readWhen_queuePieces).append
      (readWhen_outputPieces returnQueueUrl)).append (readWhen_unqueuedPieces jobName)
  refine script.congr ⟨fun all => ?_, fun fits => ?_⟩
  · obtain ⟨⟨⟨⟨⟨⟨⟨-, job, -⟩, upstream⟩, -⟩, parameters⟩, -⟩, -⟩, -⟩ := all
    exact ⟨job, parameters, upstream⟩
  · have single := fits.job.single
    exact ⟨⟨⟨⟨⟨⟨⟨single, fits.job, trivial⟩, fits.upstream⟩, trivial⟩, fits.parameters⟩, trivial⟩,
      trivial⟩, fits.job, trivial⟩

/-- The script is read with every name and value as it was given exactly when the job name has no
double quote, no dollar and no end of line, and the other names and values have no end of line. -/
theorem readAsGiven_iff_fits (jobName : String) (parameters : Params) (returnQueueUrl : Bool)
    (upstream : Upstream) :
    ReadAsGiven jobName parameters returnQueueUrl upstream ↔ Fits jobName parameters upstream := by
  unfold ReadAsGiven
  rw [← text_scriptPieces]
  exact (readWhen_scriptPieces jobName parameters returnQueueUrl upstream).read_iff

def noUpstream : Upstream := ⟨"", "", nofun⟩

lemma not_readAsGiven {jobName : String} {parameters : Params} {upstream : Upstream}
    (unfit : ¬ Fits jobName parameters upstream) :
    ¬ ReadAsGiven jobName parameters false upstream := fun read => by
  unfold ReadAsGiven at read
  rw [← text_scriptPieces] at read
  exact unfit ((readWhen_scriptPieces jobName parameters false upstream).read_iff.mp read)

/-- A double quote in a job name ends the message and what follows is read as code, a dollar
refers to a variable, and a value with two lines ends its literal in the middle. -/
theorem jobName_read_as_code :
    (Groovy.read (literalPiece .double "a\"+b+\"".toList '\n').text =
        some [.text ['a'], .code '+', .code 'b', .code '+', .text [], .code '\n'] ∧
      ¬ ReadAsGiven "a\"+b+\"" Dict.empty false noUpstream) ∧
    (Groovy.read (literalPiece .double "a$b".toList '\n').text =
        some [.cut ['a'], .code 'b', .text [], .code '\n'] ∧
      ¬ ReadAsGiven "a$b" Dict.empty false noUpstream) ∧
    (Groovy.read (literalPiece .single "a\nb".toList ')').text = none ∧
      ¬ ReadAsGiven "job" (Dict.empty.set "values" (.text "a\nb")) false noUpstream) := by
  have quoted : "a\"+b+\"".toList = ['a', '"', '+', 'b', '+', '"'] := toList_ofList
  have dollar : "a$b".toList = ['a', '$', 'b'] := toList_ofList
  have lines : "a\nb".toList = ['a', '\n', 'b'] := toList_ofList
  refine ⟨⟨?_, not_readAsGiven fun fits => ?_⟩, ⟨?_, not_readAsGiven fun fits => ?_⟩, ?_,
    not_readAsGiven fun fits => ?_⟩
  · rfl
  · have held := fits.job '"' (by rw [quoted]; decide)
    exact absurd held (by decide)
  · rfl
  · have held := fits.job '$' (by rw [dollar]; decide)
    exact absurd held (by decide)
  · rfl
  · have held := (fits.parameters ("values", .text "a\nb") (by decide)).2 '\n'
      (by rw [show (ParamValue.text "a\nb").str = "a\nb" from rfl, lines]; decide)
    exact absurd held (by decide)

end Sct.Trigger
