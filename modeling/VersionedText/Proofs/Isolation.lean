import Mathlib.Data.List.Sort
import VersionedText.Proofs.Upkeep

namespace VersionedText

/-!
# Files do not influence each other

Requests on many files come to a project in one sequence.  What is answered to
the requests on one file, and what becomes of its document, depends on this file
alone: it is as if only the requests on this file had come, and the changes of
settings, which are about no file.  So two sequences that order the requests on
each file alike, and the files among each other in any way, are answered alike
and lead to the same documents.
-/

/-- The URI of a second text that has not been saved to a file yet. -/
def Uri.nextUntitled : Uri :=
  ⟨"untitled:2", "untitled:2", rfl⟩

/-- A question about one file. -/
inductive FileQuestion where
  | isOpen
  | version
  | snapshot
  | lineColumn (offset : Nat)
  | offset (place : LineColumn)
  | editorOffset (position : EditorPosition)
  | editorRange (span : Span)
  deriving DecidableEq

/-- What a project can be asked to do or to tell. -/
inductive Request where
  | carryOut (call : ProjectCall)
  | ask (uri : Uri) (question : FileQuestion)
  /-- How the text of a snapshot that was taken earlier has changed since a version. -/
  | changeSince (snapshot : Snapshot) (version : Nat)
  deriving DecidableEq

/-- What a project answers. -/
inductive Answer where
  | outcome (version : Except Refusal (Option Nat))
  | isOpen (known : Bool)
  | version (version : Except Refusal Nat)
  | snapshot (snapshot : Except Refusal Snapshot)
  | lineColumn (place : Except Refusal LineColumn)
  | offset (offset : Except Refusal Nat)
  | editorRange (range : Except Refusal EditorRange)
  | change (change : Option ChangeRange)
  deriving DecidableEq

namespace Request

/-- The file that a request is about; a change of settings is about none. -/
def file? : Request → Option Uri
  | .carryOut call => call.file?
  | .ask uri _ => some uri
  | .changeSince snapshot _ => some snapshot.uri

/-- A request concerns a file unless it is about another. -/
def concerns (uri : Uri) (request : Request) : Bool :=
  match request.file? with
  | some named => named = uri
  | none => true

end Request

namespace Project

/-- Answer a question about a file. -/
def answer (project : Project) (uri : Uri) : FileQuestion → Answer
  | .isOpen => .isOpen (project.isOpen uri)
  | .version => .version (project.version uri)
  | .snapshot => .snapshot (project.snapshot uri)
  | .lineColumn offset =>
      .lineColumn (project.ask uri fun document => document.lineColumnOf offset)
  | .offset place => .offset (project.ask uri fun document => document.offsetOf place)
  | .editorOffset position =>
      .offset (project.ask uri fun document => document.offsetOfEditorPosition position)
  | .editorRange span =>
      .editorRange (project.ask uri fun document => document.editorRangeOf span)

/-- Respond to a request; only calls may change the project. -/
def respond (project : Project) : Request → Project × Answer
  | .carryOut call =>
      let (next, version) := project.carryOut call
      (next, .outcome version)
  | .ask uri question => (project, project.answer uri question)
  | .changeSince snapshot version =>
      (project, .change (snapshot.changeSince? (project.document? snapshot.uri) version))

/-- The project after a run of requests, and each request with its answer. -/
def respondAll (project : Project) : List Request → Project × List (Request × Answer)
  | [] => (project, [])
  | request :: later =>
      let responded := project.respond request
      let rest := respondAll responded.1 later
      (rest.1, (request, responded.2) :: rest.2)

/-- Of the answers, those to requests that concern a file. -/
def answersOn (uri : Uri) (answers : List (Request × Answer)) : List (Request × Answer) :=
  answers.filter fun answered => answered.1.concerns uri

/-- Two projects are set alike and know the same of a file. -/
structure AgreeOn (uri : Uri) (first second : Project) : Prop where
  settings : first.settings = second.settings
  entry : first.entry uri = second.entry uri

/-- A change answers the version that it leads to. -/
theorem answer_change
    (project : Project)
    (uri : Uri)
    (alter : Document → Except Refusal Document) :
    (project.change uri alter).2 = (project.ask uri alter).map Document.version := by
  rw [Project.change]
  cases project.ask uri alter <;> rfl

namespace AgreeOn

variable {uri : Uri} {first second : Project}

theorem document? (agree : AgreeOn uri first second) :
    first.document? uri = second.document? uri :=
  congrArg FileEntry.document agree.entry

theorem ask
    (agree : AgreeOn uri first second)
    (question : Document → Except Refusal α) :
    first.ask uri question = second.ask uri question := by
  rw [Project.ask, Project.ask, agree.document?]

/-- On a file of which both know the same, both answer a direct call alike. -/
theorem answer_callFile
    (agree : AgreeOn uri first second)
    {call : FileCall}
    (sameFile : call.file = uri) :
    (first.callFile call).2 = (second.callFile call).2 := by
  cases call with
  | openFile named text mark =>
      obtain rfl : named = uri := sameFile
      simp only [callFile, openFile_eq, opened, agree.document?, agree.entry, agree.settings]
  | edit named start stop inserted =>
      obtain rfl : named = uri := sameFile
      simp only [callFile, edit, answer_change, agree.ask]
  | setContent named text =>
      obtain rfl : named = uri := sameFile
      simp only [callFile, setContent, answer_change, agree.ask]
  | close named =>
      obtain rfl : named = uri := sameFile
      simp only [callFile, close, agree.document?]
      cases second.document? named <;> rfl

theorem answer_carryOut
    (agree : AgreeOn uri first second)
    {call : ProjectCall}
    (sameFile : call.file? = some uri) :
    (first.carryOut call).2 = (second.carryOut call).2 := by
  cases call with
  | host call =>
      rw [carryOut, carryOut, serve_eq, serve_eq]
      exact agree.answer_callFile (Option.some.inj sameFile)
  | applyChanges named changes =>
      obtain rfl := Option.some.inj sameFile
      simp only [carryOut, applyChanges, agree.document?]
      cases second.document? named <;> rfl
  | configure settings =>
      cases sameFile

/-- Two projects that agree on a file still do after the same call, whatever it is about. -/
theorem carryOut
    (agree : AgreeOn uri first second)
    (call : ProjectCall) :
    AgreeOn uri (first.carryOut call).1 (second.carryOut call).1 where
  settings := by
    rw [settings_carryOut, settings_carryOut, agree.settings]
  entry := by
    rw [entry_carryOut, entry_carryOut, agree.entry, agree.settings]

/-- A call about another file leaves the agreement as it is. -/
theorem carryOut_left
    (agree : AgreeOn uri first second)
    {call : ProjectCall}
    {named : Uri}
    (about : call.file? = some named)
    (different : named ≠ uri) :
    AgreeOn uri (first.carryOut call).1 second where
  settings := by
    rw [settings_carryOut, ← agree.settings]
    cases call with
    | host call => rfl
    | applyChanges named changes => rfl
    | configure settings => cases about
  entry := by
    have elsewhere : call.file? ≠ some uri := by
      rw [about]
      exact fun same => different (Option.some.inj same)
    rw [entry_carryOut, if_neg elsewhere, agree.entry]

theorem answer
    (agree : AgreeOn uri first second)
    (question : FileQuestion) :
    first.answer uri question = second.answer uri question := by
  cases question <;>
    simp only [Project.answer, isOpen, version, snapshot, agree.ask, agree.document?]

/-- To a request that concerns the file both respond alike, and they go on to agree on it. -/
theorem respond
    (agree : AgreeOn uri first second)
    {request : Request}
    (concerned : request.concerns uri = true) :
    (first.respond request).2 = (second.respond request).2 ∧
      AgreeOn uri (first.respond request).1 (second.respond request).1 := by
  cases request with
  | carryOut call =>
      refine ⟨?_, agree.carryOut call⟩
      rw [Request.concerns, Request.file?] at concerned
      cases about : call.file? with
      | none =>
          cases call with
          | host call => cases about
          | applyChanges named changes => cases about
          | configure settings => rfl
      | some named =>
          rw [about] at concerned
          obtain rfl := of_decide_eq_true concerned
          exact congrArg Answer.outcome (agree.answer_carryOut about)
  | ask named question =>
      obtain rfl := of_decide_eq_true concerned
      exact ⟨agree.answer question, agree⟩
  | changeSince snapshot version =>
      obtain rfl := of_decide_eq_true concerned
      simp only [Project.respond, agree.document?]
      exact ⟨trivial, agree⟩

/-- A request that is about another file has no effect on the agreement. -/
theorem respond_left
    (agree : AgreeOn uri first second)
    {request : Request}
    (unconcerned : request.concerns uri = false) :
    AgreeOn uri (first.respond request).1 second := by
  cases request with
  | carryOut call =>
      rw [Request.concerns, Request.file?] at unconcerned
      cases about : call.file? with
      | none =>
          rw [about] at unconcerned
          cases unconcerned
      | some named =>
          rw [about] at unconcerned
          exact agree.carryOut_left about (of_decide_eq_false unconcerned)
  | ask named question =>
      exact agree
  | changeSince snapshot version =>
      exact agree

/-- A run of requests and the run of those that concern a file are answered alike on the file. -/
theorem respondAll
    (agree : AgreeOn uri first second)
    (requests : List Request) :
    let whole := first.respondAll requests
    let alone := second.respondAll (requests.filter fun request => request.concerns uri)
    answersOn uri whole.2 = alone.2 ∧ AgreeOn uri whole.1 alone.1 := by
  induction requests generalizing first second with
  | nil =>
      exact ⟨rfl, agree⟩
  | cons request later inductionHypothesis =>
      cases concerned : request.concerns uri with
      | false =>
          obtain ⟨answers, agreeLast⟩ := inductionHypothesis (agree.respond_left concerned)
          simp only [Project.respondAll, answersOn, List.filter_cons, concerned,
            Bool.false_eq_true, if_false]
          exact ⟨answers, agreeLast⟩
      | true =>
          obtain ⟨sameAnswer, agreeNext⟩ := agree.respond concerned
          obtain ⟨answers, agreeLast⟩ := inductionHypothesis agreeNext
          simp only [answersOn] at answers
          simp only [Project.respondAll, answersOn, List.filter_cons, concerned, if_true,
            sameAnswer, answers]
          exact ⟨trivial, agreeLast⟩

end AgreeOn

theorem Maintained.respondAll
    {project : Project}
    (maintained : project.Maintained)
    (requests : List Request) :
    (project.respondAll requests).1.Maintained := by
  induction requests generalizing project with
  | nil =>
      exact maintained
  | cons request later inductionHypothesis =>
      cases request with
      | carryOut call => exact inductionHypothesis (maintained.carryOut call)
      | ask uri question => exact inductionHypothesis maintained
      | changeSince snapshot version => exact inductionHypothesis maintained

/-- The open documents by their files. -/
def documents (project : Project) : List (Uri × Document) :=
  project.files.filterMap fun file => file.2.document.map fun document => (file.1, document)

theorem map_documents (project : Project) :
    project.documents.map Prod.snd = project.openDocuments := by
  rw [documents, openDocuments, List.map_filterMap]
  congr 1
  funext file
  cases file.2.document <;> rfl

/-- The documents that are listed are those that the files lead to. -/
theorem mem_documents_iff
    {project : Project}
    (sorted : Sorted project.files)
    (uri : Uri)
    (document : Document) :
    (uri, document) ∈ project.documents ↔ project.document? uri = some document := by
  simp only [documents, List.mem_filterMap, Option.map_eq_some_iff, document?, Project.entry]
  constructor
  · rintro ⟨⟨other, entry⟩, member, found, alive, shape⟩
    obtain ⟨rfl, rfl⟩ := Prod.mk.inj shape
    rw [(sorted.lookup_eq_some_iff other entry).mpr member, Option.getD_some]
    exact alive
  · intro alive
    cases listed : project.files.lookup uri with
    | none =>
        rw [listed] at alive
        cases alive
    | some entry =>
        rw [listed, Option.getD_some] at alive
        exact ⟨(uri, entry), (sorted.lookup_eq_some_iff uri entry).mp listed, document, alive, rfl⟩

/-- Projects whose files lead to the same documents list the same documents in the same order. -/
theorem openDocuments_eq
    {first second : Project}
    (firstSorted : Sorted first.files)
    (secondSorted : Sorted second.files)
    (same : ∀ uri : Uri, first.document? uri = second.document? uri) :
    first.openDocuments = second.openDocuments := by
  have pairwise {project : Project} (sorted : Sorted project.files) :
      project.documents.Pairwise fun earlier later => earlier.1.precedes later.1 = true := by
    apply List.Pairwise.filterMap _ _ sorted
    rintro ⟨earlier, earlierEntry⟩ ⟨later, laterEntry⟩ before
    simp only [Option.map_eq_some_iff]
    rintro _ ⟨-, -, rfl⟩ _ ⟨-, -, rfl⟩
    exact before
  have irreflexive :
      Std.Irrefl fun earlier later : Uri × Document => earlier.1.precedes later.1 = true := by
    constructor
    intro listed itself
    rw [Uri.not_precedes_self] at itself
    cases itself
  have antisymmetric :
      Std.Antisymm fun earlier later : Uri × Document => earlier.1.precedes later.1 = true := by
    constructor
    intro earlier later before after
    have itself := Uri.precedes_trans before after
    rw [Uri.not_precedes_self] at itself
    cases itself
  rw [← map_documents, ← map_documents]
  congr 1
  apply List.Pairwise.eq_of_mem_iff (pairwise firstSorted) (pairwise secondSorted)
  rintro ⟨uri, document⟩
  rw [mem_documents_iff firstSorted, mem_documents_iff secondSorted, same]

/--
In a project with any past, what a run of requests is answered on a file, and
what becomes of the document of this file, is the same when all requests about
other files are left out.  So however else the requests are ordered among the
files, as long as on each file, and with the changes of settings, they come in
the same order: on every file the answers are the same, and in the end the same
documents are open.
-/
theorem respondAll_isolated
    (settings : DocumentSettings)
    (past requests : List Request) :
    let project := ((Project.empty settings).respondAll past).1
    (∀ uri : Uri,
      let whole := project.respondAll requests
      let alone := project.respondAll (requests.filter fun request => request.concerns uri)
      answersOn uri whole.2 = alone.2 ∧ whole.1.document? uri = alone.1.document? uri) ∧
      ∀ reordered : List Request,
        (∀ uri : Uri,
          (requests.filter fun request => request.concerns uri) =
            reordered.filter fun request => request.concerns uri) →
        let first := project.respondAll requests
        let second := project.respondAll reordered
        (∀ uri : Uri,
          answersOn uri first.2 = answersOn uri second.2 ∧
            first.1.document? uri = second.1.document? uri) ∧
          first.1.openDocuments = second.1.openDocuments := by
  intro project
  have isolated (uri : Uri) (asked : List Request) :=
    AgreeOn.respondAll (⟨rfl, rfl⟩ : AgreeOn uri project project) asked
  refine ⟨?_, ?_⟩
  · intro uri
    obtain ⟨answers, agree⟩ := isolated uri requests
    exact ⟨answers, agree.document?⟩
  · intro reordered sameOrder first second
    have same (uri : Uri) :
        answersOn uri first.2 = answersOn uri second.2 ∧
          first.1.document? uri = second.1.document? uri := by
      obtain ⟨firstAnswers, firstAgrees⟩ := isolated uri requests
      obtain ⟨secondAnswers, secondAgrees⟩ := isolated uri reordered
      rw [← sameOrder uri] at secondAnswers secondAgrees
      exact
        ⟨firstAnswers.trans secondAnswers.symm,
          firstAgrees.document?.trans secondAgrees.document?.symm⟩
    have maintained := (Maintained.empty settings).respondAll past
    exact
      ⟨same,
        openDocuments_eq (maintained.respondAll requests).sorted
          (maintained.respondAll reordered).sorted fun uri => (same uri).2⟩

/-- Two files take turns in one order or in another; of the second an edit is refused. -/
theorem respondAll_of_turns :
    let opening (uri : Uri) (text : Text) : Request :=
      .carryOut (.host (.direct (.openFile uri text .absent)))
    let editing (uri : Uri) : Request :=
      .carryOut (.host (.direct (.edit uri 0 1 ['x'])))
    let requests : List Request :=
      [opening .untitled ['a'], editing .untitled, .ask .untitled .version,
        opening .nextUntitled ['é'], editing .nextUntitled]
    let reordered : List Request :=
      [opening .nextUntitled ['é'], opening .untitled ['a'], editing .nextUntitled,
        editing .untitled, .ask .untitled .version]
    let project := ((Project.empty .default).respondAll []).1
    let first := project.respondAll requests
    let second := project.respondAll reordered
    let answers : List (Request × Answer) :=
      [(opening .nextUntitled ['é'], .outcome (.ok (some 1))),
        (editing .nextUntitled, .outcome (.error (.notCharacterBoundary 1)))]
    (∀ uri : Uri,
      (requests.filter fun request => request.concerns uri) =
        reordered.filter fun request => request.concerns uri) ∧
      answersOn .nextUntitled first.2 = answers ∧
      answersOn .nextUntitled second.2 = answers ∧
      first.1.openDocuments = second.1.openDocuments := by
  intro opening editing requests reordered project first second answers
  have different : Uri.untitled ≠ Uri.nextUntitled := by
    decide
  have sameOrder (uri : Uri) :
      (requests.filter fun request => request.concerns uri) =
        reordered.filter fun request => request.concerns uri := by
    by_cases asksFirst : Uri.untitled = uri
    · subst asksFirst
      decide
    · by_cases asksNext : Uri.nextUntitled = uri
      · subst asksNext
        decide
      · simp [requests, reordered, opening, editing, Request.concerns, Request.file?,
          ProjectCall.file?, HostCall.fileCall, FileCall.file, asksFirst, asksNext]
  have answered : answersOn .nextUntitled first.2 = answers := by
    decide
  obtain ⟨sameAnswers, sameDocuments⟩ :=
    (respondAll_isolated .default [] requests).2 reordered sameOrder
  exact
    ⟨sameOrder, answered, (sameAnswers .nextUntitled).1.symm.trans answered, sameDocuments⟩

end Project

end VersionedText
