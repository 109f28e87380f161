import SchoolPlatform.Library.Gregorian
import SchoolPlatform.Library.KeySort
import SchoolPlatform.Model.AcademicCalendar
import Mathlib.Data.List.Infix
import Mathlib.Data.Char

/-!
# The calendar on the pages of the ministry

The pages list events. Openings of a school year divide them into years, and the events of a year
give the dates of its calendar, by rule where the ministry has not published them. A calendar is
ready when all its dates are there and nothing is wrong with them.
-/

namespace SchoolPlatform.Academics

open Gregorian

/-- An error of the source, or an exception that nobody catches: of a text operation on an attribute
that has no value, or of a date after the last day of the calendar. -/
inductive SourceFailure
  | source (code : String)
  | typeError
  | attributeError
  | overflow
  deriving DecidableEq

abbrev SourceRow := Dict Text (Option Text)

structure SourceDocument where
  url : Text
  rows : List SourceRow
  deriving DecidableEq

structure MinistryEvent where
  id : Text
  title : Text
  date : Date
  hijriDate : Option Text
  url : Text
  deriving DecidableEq

/-- `datetime.strptime(raw, "%d/%m/%Y")`, for a text of two, two and four digits. -/
def slashDate? (raw : Text) : Option Date :=
  match raw with
  | [d₁, d₂, '/', m₁, m₂, '/', y₁, y₂, y₃, y₄] => ymdText? [y₁, y₂, y₃, y₄] [m₁, m₂] [d₁, d₂]
  | _ => none

def invalidEvent : SourceFailure := .source "MINISTRY_INVALID_EVENT"

def readEvent (url : Text) (row : SourceRow) : Except SourceFailure MinistryEvent :=
  match Dict.get? row "id".toList, Dict.get? row "title".toList,
    Dict.get? row "dategregorian".toList with
  | some none, some _, some _ => .error .typeError
  | some (some id), some title, some rawDate =>
    if id = [] ∨ id.all Text.isDecimal = false then .error invalidEvent
    else
      match title, rawDate with
      | none, _ => .error .attributeError
      | some title, rawDate =>
        if Text.strip title = [] then .error invalidEvent
        else
          match rawDate with
          | none => .error .typeError
          | some raw =>
            match slashDate? raw with
            | none => .error invalidEvent
            | some date => .ok
                { id := id
                  title := title
                  date := date
                  hijriDate := (Dict.get? row "eventdate".toList).getD (some [])
                  url := url }
  | _, _, _ => .error invalidEvent

/-- One row of the loop over the documents: an event that is known has to be the same. -/
def addEvent (events : Dict Text MinistryEvent) (reading : Except SourceFailure MinistryEvent) :
    Except SourceFailure (Dict Text MinistryEvent) := do
  let event ← reading
  if (Dict.get? events event.id).any fun known => known ≠ event then
    .error (.source "MINISTRY_CONFLICTING_EVENT")
  else .ok (Dict.insert events event.id event)

/-- What the rows of the pages say, in their order; the first document lists the years. -/
def readings (documents : List SourceDocument) : List (Except SourceFailure MinistryEvent) :=
  documents.tail.flatMap fun document => document.rows.map (readEvent document.url)

def eventsOf (documents : List SourceDocument) :
    Except SourceFailure (Dict Text MinistryEvent) :=
  (readings documents).foldlM addEvent []

inductive EventKind
  | yearStart | yearEnd | midyearBreakStart
  | semesterStart (sequence : ℕ)
  | semesterEnd (sequence : ℕ)
  deriving DecidableEq

def EventKind.key : EventKind → Text
  | .yearStart => "year_start".toList
  | .yearEnd => "year_end".toList
  | .midyearBreakStart => "midyear_break_start".toList
  | .semesterStart sequence => "semester_".toList ++ Nat.toDigits 10 sequence ++ "_start".toList
  | .semesterEnd sequence => "semester_".toList ++ Nat.toDigits 10 sequence ++ "_end".toList

def isVowelMark (c : Char) : Bool :=
  (0x64b ≤ c.toNat && c.toNat ≤ 0x65f) || c.toNat = 0x670

def plainLetter (c : Char) : Char :=
  if c = 'أ' ∨ c = 'إ' ∨ c = 'آ' then 'ا' else if c = 'ى' then 'ي' else c

/-- `_normal`; `nfkc` is `unicodedata.normalize("NFKC", ·)`. -/
def normalTitle (nfkc : Text → Text) (text : Text) : Text :=
  let bare := ((nfkc text).filter fun c => c ≠ 'ـ').filter fun c => !isVowelMark c
  [' '].intercalate (((bare.map plainLetter).splitOnP Text.isSpace).filter fun word => word ≠ [])

def contains (title : Text) (part : String) : Bool := decide (part.toList <:+: title)

def startsWith (title : Text) (part : String) : Bool := part.toList.isPrefixOf title

def semesterKind (title : Text) (sequence : ℕ) (word : String) : Option EventKind :=
  if contains title ("الفصل الدراسي " ++ word) || contains title ("للفصل الدراسي " ++ word) then
    if (contains title "بداية الدراسة" || startsWith title ("بداية الفصل الدراسي " ++ word)) &&
        !contains title "بعد" then
      some (.semesterStart sequence)
    else if startsWith title ("نهاية الفصل الدراسي " ++ word) then some (.semesterEnd sequence)
    else none
  else none

def eventKind (nfkc : Text → Text) (rawTitle : Text) : Option EventKind :=
  let title := normalTitle nfkc rawTitle
  if contains title "بداية" &&
      (contains title "بداية العام الدراسي" || contains title "بداية الدراسة للعام الدراسي") then
    some .yearStart
  else if contains title "نهاية العام الدراسي" && contains title "نهاية دوام" then some .yearEnd
  else if title = "اجازة منتصف العام الدراسي".toList ∨
      title = "بداية اجازة منتصف العام الدراسي".toList then
    some .midyearBreakStart
  else
    (semesterKind title 1 "الاول").orElse fun _ =>
      (semesterKind title 2 "الثاني").orElse fun _ => semesterKind title 3 "الثالث"

/-- Why a date stands in a calendar. -/
inductive EvidenceBasis
  | published
  | yearBoundary (policyUrl : Option String)
  | calculated (sourceDate : Date) (rule : String) (offsetDays : ℤ)
  deriving DecidableEq

structure Evidence where
  event : MinistryEvent
  date : Date
  basis : EvidenceBasis
  deriving DecidableEq

abbrev EvidenceTable := Dict EventKind Evidence

def EvidenceTable.date? (evidence : EvidenceTable) (kind : EventKind) : Option Date :=
  (Dict.get? evidence kind).map fun e => e.date

def conflictProblem (kind : EventKind) : Text := "CONFLICT:".toList ++ kind.key

def unsupportedSystem : Text := "UNSUPPORTED_SEMESTER_SYSTEM".toList

def returnNotSunday : Text := "CALCULATED_RETURN_NOT_SUNDAY".toList

def policyNotVerified : Text := "SEMESTER_POLICY_NOT_VERIFIED".toList

def invalidYearRange : Text := "INVALID_YEAR_RANGE".toList

def invalidSemesterOrder : Text := "INVALID_SEMESTER_ORDER".toList

/-- One event of the loop over those of a year: the last one of a kind is the evidence. -/
def collect (nfkc : Text → Text) (state : EvidenceTable × List Text) (event : MinistryEvent) :
    EvidenceTable × List Text :=
  match eventKind nfkc event.title with
  | none => state
  | some kind =>
    let problems :=
      if (state.1.date? kind).any fun date => date ≠ event.date then
        state.2 ++ [conflictProblem kind]
      else state.2
    (Dict.insert state.1 kind { event := event, date := event.date, basis := .published }, problems)

def hasThird (evidence : EvidenceTable) : Bool :=
  (evidence.date? (.semesterStart 3)).isSome || (evidence.date? (.semesterEnd 3)).isSome

/-- The opening of the year opens its first semester too. -/
def withFirstStart (evidence : EvidenceTable) : EvidenceTable :=
  match Dict.get? evidence (.semesterStart 1), Dict.get? evidence .yearStart with
  | none, some opening =>
    Dict.insert evidence (.semesterStart 1) { opening with basis := .yearBoundary none }
  | _, _ => evidence

/-- A date that is calculated from the midyear break, unless it has been published. -/
def withCalculated (kind : EventKind) (offset : ℤ) (rule : String)
    (state : EvidenceTable × List Text) : Except SourceFailure (EvidenceTable × List Text) :=
  match Dict.get? state.1 .midyearBreakStart, Dict.get? state.1 kind with
  | some midyear, none =>
    let day : ℤ := (midyear.date : ℤ) + offset
    if 1 ≤ day ∧ day ≤ maxOrdinal then
      let evidence := Dict.insert state.1 kind
        { midyear with
          date := day.toNat
          basis := .calculated midyear.date rule offset }
      let problems :=
        if kind = .semesterStart 2 ∧ day.toNat % 7 ≠ 0 then state.2 ++ [returnNotSunday]
        else state.2
      .ok (evidence, problems)
    else .error .overflow
  | _, _ => .ok state

def semesterPolicySource : String := "https://sites.moe.gov.sa/Riyadh/news/news-165/"

/-- The end of the year ends its second semester too. -/
def withSecondEnd (evidence : EvidenceTable) : EvidenceTable :=
  match Dict.get? evidence (.semesterEnd 2), Dict.get? evidence .yearEnd with
  | none, some closing => Dict.insert evidence (.semesterEnd 2)
      { closing with basis := .yearBoundary (some semesterPolicySource) }
  | _, _ => evidence

def withRules (twoSemesters : Bool) (state : EvidenceTable × List Text) :
    Except SourceFailure (EvidenceTable × List Text) :=
  if twoSemesters && !hasThird state.1 then do
    let ended ← withCalculated (.semesterEnd 1) (-1) "DAY_BEFORE_MIDYEAR_BREAK" state
    let opened ← withCalculated (.semesterStart 2) 9 "MIDYEAR_PLUS_9_DAYS_V1" ended
    pure (withSecondEnd opened.1, opened.2)
  else if twoSemesters then pure state
  else pure (state.1, state.2 ++ [policyNotVerified])

inductive CalendarStatus
  | ready | incomplete | invalid
  deriving DecidableEq

structure CalendarEntry where
  name : Text
  dates : CalendarDates
  evidence : EvidenceTable
  missing : List EventKind
  problems : List Text
  events : List MinistryEvent
  status : CalendarStatus
  deriving DecidableEq

def requiredDates : List EventKind :=
  [.yearStart, .yearEnd, .semesterStart 1, .semesterEnd 1, .semesterStart 2, .semesterEnd 2]

def datesOf (start : Date) (evidence : EvidenceTable) : CalendarDates where
  yearStart := (evidence.date? .yearStart).getD start
  yearEnd := evidence.date? .yearEnd
  semester1Start := evidence.date? (.semesterStart 1)
  semester1End := evidence.date? (.semesterEnd 1)
  semester2Start := evidence.date? (.semesterStart 2)
  semester2End := evidence.date? (.semesterEnd 2)

/-- The year lasts 180 to 370 days. -/
def rangeProblems (start : Date) (dates : CalendarDates) : List Text :=
  if dates.yearEnd.any fun ye => ye < start + 180 || start + 370 < ye then [invalidYearRange]
  else []

/-- The semesters lie in the year, one after the other. -/
def orderProblems (dates : CalendarDates) : List Text :=
  match dates.yearEnd, dates.semester1Start, dates.semester1End, dates.semester2Start,
    dates.semester2End with
  | some ye, some s1, some e1, some s2, some e2 =>
    if dates.yearStart ≤ s1 ∧ s1 ≤ e1 ∧ e1 < s2 ∧ s2 ≤ e2 ∧ e2 ≤ ye then []
    else [invalidSemesterOrder]
  | _, _, _, _, _ => []

def yearOf (d : Date) : ℕ := (toYmd d).1

def yearText (year : ℕ) : Text :=
  List.replicate (4 - (Nat.toDigits 10 year).length) '0' ++ Nat.toDigits 10 year

/-- The calendar of the year that begins on `start`, from the events of the year. -/
def calendarOf (nfkc : Text → Text) (start : Date) (selected : List MinistryEvent) :
    Except SourceFailure CalendarEntry := do
  let collected := selected.foldl (collect nfkc) ([], [])
  let twoSemesters := decide (2025 ≤ yearOf start ∧ yearOf start ≤ 2028)
  let system := if hasThird collected.1 then collected.2 ++ [unsupportedSystem] else collected.2
  let state ← withRules twoSemesters (withFirstStart collected.1, system)
  let dates := datesOf start state.1
  let missing := requiredDates.filter fun kind => state.1.date? kind = none
  let problems := state.2 ++ rangeProblems start dates ++ orderProblems dates
  pure
    { name := yearText (yearOf start) ++ ['/'] ++ Nat.toDigits 10 (yearOf start + 1)
      dates := dates
      evidence := state.1
      missing := missing
      problems := KeySort.sortedSet problems
      events := selected
      status := if problems ≠ [] then .invalid else if missing ≠ [] then .incomplete else .ready }

/-- The loop over the openings: a year goes up to the next one. -/
def calendarsFrom (nfkc : Text → Text) (events : List MinistryEvent) :
    List Date → Except SourceFailure (List CalendarEntry)
  | [] => pure []
  | start :: starts => do
    let next := starts.head?.getD maxOrdinal
    let entry ← calendarOf nfkc start
      (events.filter fun e => start ≤ e.date ∧ e.date < next)
    let entries ← calendarsFrom nfkc events starts
    pure (entry :: entries)

def startsOf (nfkc : Text → Text) (events : List MinistryEvent) : List Date :=
  KeySort.sortedSet
    ((events.filter fun e => eventKind nfkc e.title = some .yearStart).map fun e => e.date)

def normalizeDocuments (nfkc : Text → Text) (documents : List SourceDocument) :
    Except SourceFailure (List CalendarEntry) := do
  let events ← eventsOf documents
  let values := events.map Prod.snd
  let calendars ← calendarsFrom nfkc values (startsOf nfkc values)
  if calendars = [] then .error (.source "MINISTRY_NO_ACADEMIC_YEAR") else .ok calendars

def jsonChar (c : Char) : Text :=
  if c = '"' then ['\\', '"']
  else if c = '\\' then ['\\', '\\']
  else if c = '\n' then ['\\', 'n']
  else if c = '\r' then ['\\', 'r']
  else if c = '\t' then ['\\', 't']
  else if c.toNat = 8 then ['\\', 'b']
  else if c.toNat = 12 then ['\\', 'f']
  else if c.toNat < 16 then "\\u000".toList ++ Nat.toDigits 16 c.toNat
  else if c.toNat < 32 then "\\u00".toList ++ Nat.toDigits 16 c.toNat
  else [c]

def jsonText (t : Text) : Text := ['"'] ++ t.flatMap jsonChar ++ ['"']

/-- `json.dumps(row, ensure_ascii=False, sort_keys=True)`. -/
def rowText (row : SourceRow) : Text :=
  let item := fun p : Text × Option Text =>
    jsonText p.1 ++ ": ".toList ++ (p.2.map jsonText).getD "null".toList
  ['{'] ++ ", ".toList.intercalate ((KeySort.sortBy Prod.fst row).map item) ++ ['}']

/-- The fingerprint of `fetch_ministry_calendar`: what is hashed is made of the address and the
sorted rows of each document, the rule and the version of the parser being constants. -/
def fingerprint (documents : List SourceDocument) : Digest (List (Text × List Text)) :=
  ⟨documents.map fun document => (document.url, KeySort.sortBy id (document.rows.map rowText))⟩

end SchoolPlatform.Academics
