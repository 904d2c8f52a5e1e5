import NodeTuning.Controller.State
import NodeTuning.Remote.Answer
import NodeTuning.Remote.Request

/-!
Telling a distant cluster about events. An event that was told before is told again as a series: the
first one with a count of how often it was seen. One that could not be told is not remembered.
-/
namespace NodeTuning

structure EventSubject where
  name : Option String
  inNamespace : Option String
  uid : Option String
  deriving DecidableEq

def EventSubject.ofProfile (profile : Profile) : EventSubject :=
  ⟨profile.metadata.name, profile.metadata.inNamespace, profile.metadata.uid⟩

structure EventKey where
  severity : Severity
  reason : String
  subject : EventSubject
  deriving DecidableEq

structure PublishedEvent where
  key : EventKey
  name : String
  note : String
  time : String
  /-- How often it was seen and when last, if more than once. -/
  series : Option (UInt32 × String)

/-- An instant as it stands in events: its text, and what tells names apart. -/
structure Moment where
  time : String
  mark : String

structure Recorder where
  reporter : String
  told : List PublishedEvent := []

namespace PublishedEvent

private def subjectJson (subject : EventSubject) : Json := .record [
  field "apiVersion" Kind.performanceProfile.apiVersion,
  field "kind" Kind.performanceProfile.name,
  optionalField "name" subject.name,
  optionalField "namespace" subject.inNamespace,
  optionalField "uid" subject.uid]

private def seriesJson (series : UInt32 × String) : Json :=
  .obj [("count", encode series.1), ("lastObservedTime", .str series.2)]

def toJson (event : PublishedEvent) (reporter : String) : Json := .record [
  field "apiVersion" "events.k8s.io/v1",
  field "kind" "Event",
  field "action" "Reconcile",
  field "eventTime" event.time,
  ("metadata", some (.record [
    field "name" event.name, optionalField "namespace" event.key.subject.inNamespace])),
  field "note" event.note,
  field "reason" event.key.reason,
  ("regarding", some (subjectJson event.key.subject)),
  field "reportingController" reporter,
  field "reportingInstance" reporter,
  ("series", event.series.map seriesJson),
  field "type" event.key.severity.name]

def again (event : PublishedEvent) (now : Moment) : PublishedEvent :=
  { event with series := some ((event.series.map fun last => last.1 + 1).getD 2, now.time) }

private def collection (event : PublishedEvent) : String :=
  Target.events (event.key.subject.inNamespace.getD "default")

/-- The request that tells of the event. The first one is created, later ones change it. -/
def request? (event : PublishedEvent) (reporter : String) : Option Request :=
  let body := event.toJson reporter
  match event.series with
  | none => Request.make? .post (event.collection ++ "?") (some (.json, body))
  | some _ =>
    Request.make? .patch (event.collection ++ "/" ++ event.name ++ "?") (some (.mergePatch, body))

end PublishedEvent

namespace Recorder

private def optionalTexts (fields : Fields) (names : List String) : Option Unit :=
  names.forM fun name => do
    let _ : Option String ← fields.optional name
    return ()

private def nested (fields : Fields) (name : String) (check : Fields → Option Unit) :
    Option Unit :=
  (Json.valuesOf name fields).forM fun
    | .null => some ()
    | value => value.members?.bind check

private def instants (fields : Fields) (names : List String) : Option Unit :=
  names.forM fun name => do
    let _ : Option Timestamp ← fields.optional name
    return ()

private def objectReference (fields : Fields) : Option Unit :=
  optionalTexts fields
    ["apiVersion", "fieldPath", "kind", "name", "namespace", "resourceVersion", "uid"]

private def checkEvent (json : Json) : Option Unit := do
  let fields ← json.members?
  if !(fields.saysOnly "apiVersion" "events.k8s.io/v1" && fields.saysOnly "kind" "Event") then none
  optionalTexts fields ["action", "note", "reason", "reportingController", "reportingInstance",
    "type"]
  instants fields ["eventTime", "deprecatedFirstTimestamp", "deprecatedLastTimestamp"]
  let _ : Option Int32 ← fields.optional "deprecatedCount"
  let _ : Option ObjectMeta ← fields.optional "metadata"
  nested fields "deprecatedSource" fun source => optionalTexts source ["component", "host"]
  nested fields "regarding" objectReference
  nested fields "related" objectReference
  nested fields "series" fun series => do
    let _ : Option Int32 ← series.optional "count"
    let _ : Timestamp ← series.required "lastObservedTime"
    return ()

/-- Whether an answer says that the event was taken. -/
def accepted (answer : RawAnswer) : Bool :=
  match answer.document with
  | .ok json => (checkEvent json).isSome
  | .error _ => false

def fresh (recorder : Recorder) (key : EventKey) (note : String) (now : Moment) :
    PublishedEvent where
  key
  name := key.subject.name.getD recorder.reporter ++ "." ++ now.mark
  note
  time := now.time
  series := none

/-- What is told about a key: the event that was told before once more, or a fresh one. -/
def next (recorder : Recorder) (key : EventKey) (note : String) (now : Moment) : PublishedEvent :=
  match recorder.told.find? fun event => event.key = key with
  | some event => event.again now
  | none => recorder.fresh key note now

private def remember (recorder : Recorder) (event : PublishedEvent) : Recorder :=
  { recorder with told := event :: recorder.told.filter fun other => other.key ≠ event.key }

def publish (recorder : Recorder) (key : EventKey) (note : String) (now : Moment)
    (answer : RawAnswer) : List Request × Recorder :=
  let event := recorder.next key note now
  match event.request? recorder.reporter with
  | none => ([], recorder)
  | some request => ([request], if accepted answer then recorder.remember event else recorder)

end Recorder
end NodeTuning
