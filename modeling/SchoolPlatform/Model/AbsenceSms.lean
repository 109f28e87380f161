import SchoolPlatform.Library.Text
import SchoolPlatform.Model.Calendar
import SchoolPlatform.Model.StudentLifecycle

/-!
# Absence messages to guardians

A message is queued for a student and a date, claimed by a run of the sending task, handed to the
provider, and its result recorded: three steps of their own, with the network between them.
-/

namespace SchoolPlatform

open ReadCommitted

/-! ## Providers -/

inductive SmsProvider
  | dreams | msegat
  deriving DecidableEq

/-- What `json.loads` makes of a body, with `str` of what is read from it: an object's `code` and
its reference, or any other value. -/
inductive JsonReply
  | dict (code reference : Text)
  | value (str : Text)
  deriving DecidableEq

/-- What comes back of a request: a body, an error status, a network that has failed, or any other
exception. -/
inductive HttpOutcome
  | body (text : Text) (json : Option JsonReply)
  | httpError (code : ℕ)
  | transport
  | otherException
  deriving DecidableEq

/-- How `send_sms` ends: a result, a provider error, or any other exception. -/
inductive SmsOutcome
  | result (reference : Text)
  | providerError (code : String) (ambiguous : Bool)
  | otherException
  deriving DecidableEq

/-- The character matches a small letter of the pattern when case is ignored. -/
def matchesLetter (letter c : Char) : Bool := c.toLower == letter || (letter == 's' && c == 'ſ')

def stripWord : Text → Text → Option Text
  | [], t => some t
  | _ :: _, [] => none
  | letter :: word, c :: t => if matchesLetter letter c then stripWord word t else none

/-- The rest after `Result\s*:\s*`. -/
def stripResult (t : Text) : Option Text :=
  (stripWord "result".toList t).bind fun t =>
    match t.dropWhile Text.isSpace with
    | ':' :: t => some (t.dropWhile Text.isSpace)
    | _ => none

/-- `Result\s*:\s*(\d+)(?::[^\s]*)?`: the reference. -/
def dreamsReference (response : Text) : Option Text :=
  (stripResult response).bind fun t =>
    let digits := t.takeWhile Text.isDecimal
    if digits = [] then none
    else match t.dropWhile Text.isDecimal with
      | [] => some digits
      | ':' :: rest => if rest.any Text.isSpace then none else some digits
      | _ => none

def dreamsOutcome (response : Text) : SmsOutcome :=
  match response with
  | '-' :: digits =>
    if digits ≠ [] ∧ digits.all Text.isDecimal then
      .providerError ("DREAMS_" ++ String.ofList digits) false
    else .providerError "DREAMS_RESPONSE_UNKNOWN" true
  | _ =>
    if ((stripResult response).getD response |> stripWord "success".toList) = some [] then
      .result []
    else match dreamsReference response with
      | some reference => .result reference
      | none =>
        if response = ['1'] then .result []
        else .providerError "DREAMS_RESPONSE_UNKNOWN" true

/-- `[A-Z0-9]{1,12}`. -/
def isMsegatCode (code : Text) : Bool :=
  code ≠ [] && code.length ≤ 12 && code.all fun c => ('A' ≤ c && c ≤ 'Z') || ('0' ≤ c && c ≤ '9')

def msegatOutcome (json : Option JsonReply) : SmsOutcome :=
  match json with
  | none => .providerError "MSEGAT_RESPONSE_UNKNOWN" true
  | some reply =>
    let (code, reference) := match reply with
      | .dict code reference => (code, reference)
      | .value str => (str, [])
    if code = "1".toList ∨ code = "M0000".toList then .result (reference.take 100)
    else if isMsegatCode code then .providerError ("MSEGAT_" ++ String.ofList code) false
    else .providerError "MSEGAT_RESPONSE_UNKNOWN" true

/-- A status of 500 and above may come after the message has been accepted. -/
def sendSms (provider : SmsProvider) : HttpOutcome → SmsOutcome
  | .httpError code => .providerError ("HTTP_" ++ toString code) (decide (500 ≤ code))
  | .transport => .providerError "TRANSPORT_UNCERTAIN" true
  | .otherException => .otherException
  | .body text json =>
    match provider with
    | .dreams => dreamsOutcome (Text.strip text)
    | .msegat => msegatOutcome json

/-! ## Rows -/

structure SchoolSmsIntegration where
  provider : SmsProvider
  secretEncrypted : String
  isActive : Bool
  deriving DecidableEq

structure RecipientContactBlock where
  student : ℕ
  mobileHash : Digest String
  resolved : Bool
  deriving DecidableEq

inductive AbsenceSmsStatus
  | queued | sending | accepted | failed | unknown
  deriving DecidableEq

/-- A notice is known by its student and date: a school has one of each. -/
structure NoticeKey where
  student : ℕ
  attendanceDate : Date
  deriving DecidableEq

/-- `sender` is the run of the sending task that has claimed the notice; no code reads it. -/
structure AbsenceSmsNotice where
  absenceStatus : DailyAbsenceStatus
  provider : SmsProvider
  recipientHash : Digest String
  status : AbsenceSmsStatus := .queued
  providerReference : Text := []
  failureCode : String := ""
  attempts : ℕ := 1
  requestedBy : ℕ
  attemptedAt : Option Instant := none
  acceptedAt : Option Instant := none
  sender : Option ℕ := none
  deriving DecidableEq

/-- A call of the provider, and how its attempt has been recorded to have ended. -/
structure ProviderCall where
  key : NoticeKey
  mobile : String
  ended : Option AbsenceSmsStatus := none
  deriving DecidableEq

/-- What queueing and sending only read. -/
structure SmsFacts where
  school : School := {}
  integration : Option SchoolSmsIntegration := none
  contactBlocks : List RecipientContactBlock := []
  hasAbsenceSms : Bool := true
  isOperational : Bool := true

structure SmsOffice where
  facts : SmsFacts := {}
  notices : NoticeKey → Option AbsenceSmsNotice := fun _ => none
  calls : List ProviderCall := []

inductive SmsRow
  | integration
  | notice (key : NoticeKey)
  deriving DecidableEq

abbrev SmsTransaction (α : Type) := Tx SmsOffice SmsRow Failure α

abbrev SmsProgram (α : Type) := Program SmsOffice SmsRow Failure α

def SmsOffice.putNotice (s : SmsOffice) (key : NoticeKey) (n : AbsenceSmsNotice) : SmsOffice :=
  { s with notices := Function.update s.notices key (some n) }

def recipientHash (mobile : String) : Digest String := ⟨mobile⟩

/-- `^\+9665\d{8}$`. -/
def isNormalizedMobile (t : Text) : Bool :=
  t.take 5 = "+9665".toList && (t.drop 5).length = 8 && (t.drop 5).all Text.isDecimal

def recipientIssue (mobile : String) : Option String :=
  if mobile = "" then some "MISSING_RECIPIENT"
  else if !isNormalizedMobile mobile.toList then some "INVALID_RECIPIENT"
  else none

/-- Active students enrolled on the date who have missed the whole day. -/
def School.candidateAbsences (s : School) (d : Date) : List (DailyAttendanceSummary × Student) :=
  s.summaries.filterMap fun r =>
    if r.attendanceDate = d ∧ ((s.enrollmentsOnDate d).any fun e => e.student = r.student) ∧
        r.absenceStatus = .full then
      (s.student? r.student).bind fun x => if x.status = .active then some (r, x) else none
    else none

def School.eligibleAbsences (s : School) (d : Date) : List (DailyAttendanceSummary × Student) :=
  (s.candidateAbsences d).filter fun p =>
    0 < p.1.unexcusedAbsentPeriods ∧ 0 < p.1.submittedPeriods

def SmsFacts.recipientBlocked (s : SmsFacts) (student : ℕ) (mobile : String) : Bool :=
  s.contactBlocks.any fun b =>
    b.student = student ∧ b.mobileHash = recipientHash mobile ∧ b.resolved = false

/-! ## Queueing -/

def smsError (code message : String) (statusCode : ℕ) : Failure :=
  .api { code := code, message := message, statusCode := statusCode }

def MAX_SEND_BATCH : ℕ := 50

/-- `get_or_create` of the notice of a student and date: whether it has been created. -/
def getOrCreateNotice (key : NoticeKey) (fresh : AbsenceSmsNotice) : SmsTransaction Bool := do
  let found ← Tx.select fun s => s.notices key
  match found with
  | some _ => pure false
  | none => do
    Tx.lockRows .update [.notice key]
    let taken ← Tx.select fun s => s.notices key
    match taken with
    | some _ => pure false
    | none => do
      Tx.update fun s => s.putNotice key fresh
      pure true

def queueNotice (key : NoticeKey) (fresh : AbsenceSmsNotice) : SmsTransaction Bool := do
  let created ← getOrCreateNotice key fresh
  if created then pure true
  else do
    Tx.lockRows .update [.notice key]
    let current ← Tx.select fun s => s.notices key
    match current with
    | none => .raise (.doesNotExist "AbsenceSmsNotice")
    | some notice =>
      if notice.status ≠ .failed then pure false
      else do
        Tx.update fun s => s.putNotice key
          { notice with
            absenceStatus := fresh.absenceStatus
            provider := fresh.provider
            recipientHash := fresh.recipientHash
            requestedBy := fresh.requestedBy
            status := .queued
            failureCode := ""
            providerReference := []
            acceptedAt := none
            attempts := notice.attempts + 1 }
        pure true

structure QueueResult where
  queued : List NoticeKey := []
  skipped : List ℕ := []
  blocked : List ℕ := []
  deriving DecidableEq

def freshNotice (actor : ℕ) (provider : SmsProvider)
    (p : DailyAttendanceSummary × Student) : AbsenceSmsNotice where
  absenceStatus := p.1.absenceStatus
  provider := provider
  recipientHash := recipientHash p.2.guardianMobile
  requestedBy := actor

def queueNotices (actor : ℕ) (provider : SmsProvider) (d : Date) (blocked : ℕ → Bool) :
    List (DailyAttendanceSummary × Student) → QueueResult → SmsTransaction QueueResult
  | [], acc => pure acc
  | p :: ps, acc =>
    let key : NoticeKey := ⟨p.1.student, d⟩
    if blocked p.1.student then
      queueNotices actor provider d blocked ps
        { acc with blocked := acc.blocked ++ [p.1.student] }
    else do
      let queued ← queueNotice key (freshNotice actor provider p)
      queueNotices actor provider d blocked ps
        (if queued then { acc with queued := acc.queued ++ [key] }
          else { acc with skipped := acc.skipped ++ [p.1.student] })

/-- The transaction of `queue_absence_sms`. -/
def queueAbsences (actor : ℕ) (d : Date) (studentIds : List ℕ) : SmsTransaction QueueResult := do
  let found ← Tx.selectForUpdate (fun _ => [SmsRow.integration]) fun _ s => s.facts.integration
  match found.filter fun x => x.isActive with
  | none =>
    .raise (smsError "SMS_INTEGRATION_INACTIVE" "فعّل ربط الرسائل في إعدادات المدرسة." 400)
  | some integration => do
    let summaries ← Tx.select fun s => (s.facts.school.eligibleAbsences d).filter fun p =>
      p.1.student ∈ studentIds
    if (Dict.ofList (summaries.map fun p => (p.1.student, p))).length ≠ studentIds.length then
      .raise (smsError "SMS_ABSENCE_CHANGED"
        "تغيرت بيانات الغياب؛ حدّث المعاينة قبل الإرسال." 409)
    else if summaries.any fun p => p.2.guardianMobile = "" then
      .raise (smsError "SMS_RECIPIENT_MISSING"
        "يوجد طالب بلا جوال ولي أمر؛ صحح رقمه أولًا." 400)
    else if summaries.any fun p => (recipientIssue p.2.guardianMobile).isSome then
      .raise (smsError "SMS_RECIPIENT_INVALID"
        "يوجد رقم جوال ولي أمر غير صحيح؛ صححه أولًا." 400)
    else do
      let blocked ← Tx.select fun s => fun student : ℕ => summaries.any fun p =>
        p.1.student = student ∧ s.facts.recipientBlocked student p.2.guardianMobile
      let rows := studentIds.filterMap fun student =>
        summaries.find? fun p => p.1.student = student
      queueNotices actor integration.provider d blocked rows {}

/-- A queued notice that has been found to have no task fails. -/
def SmsOffice.failUnavailable (s : SmsOffice) (key : NoticeKey) : SmsOffice :=
  match s.notices key with
  | some n =>
    if n.status = .queued then
      s.putNotice key { n with status := .failed, failureCode := "QUEUE_UNAVAILABLE" }
    else s
  | none => s

/-- A notice whose task could not be handed to the broker. -/
def queueUnavailable (key : NoticeKey) : SmsTransaction Unit :=
  Tx.updateWhere
    (fun s => if (s.notices key).any fun n => n.status = .queued then [SmsRow.notice key] else [])
    fun rows s => if rows = [] then s else s.failUnavailable key

/-- `queue_absence_sms`; the broker refuses the tasks of the students in `brokerDown`. -/
def queueAbsenceSms (actor : ℕ) (d : Date) (studentIds : List ℕ) (brokerDown : ℕ → Bool) :
    SmsProgram Unit := do
  let hasFeature ← Program.read fun s => s.facts.hasAbsenceSms
  if !hasFeature then
    .raise (.api (featureNotIncluded "ABSENCE_SMS" "رسائل الغياب"))
  else if studentIds = [] ∨ MAX_SEND_BATCH < studentIds.length ∨ ¬ studentIds.Nodup then
    .raise (smsError "SMS_SELECTION_INVALID" "حدد من 1 إلى 50 طالبًا دون تكرار." 400)
  else do
    let result ← Program.transaction (queueAbsences actor d studentIds)
    Program.forEach (fun key : NoticeKey =>
      if brokerDown key.student then Program.transaction (queueUnavailable key) else .ret ())
      result.queued

/-! ## Sending -/

def failBeforeSend (key : NoticeKey) (notice : AbsenceSmsNotice) (code : String) :
    SmsTransaction (Option (SmsProvider × String)) := do
  Tx.update fun s => s.putNotice key { notice with status := .failed, failureCode := code }
  pure none

/-- What is about to be sent is still what was queued. -/
def SmsFacts.readyToSend (s : SmsFacts) (key : NoticeKey) (notice : AbsenceSmsNotice) :
    Option (SchoolSmsIntegration × Student) :=
  match s.integration.filter fun x => x.isActive,
    (s.school.eligibleAbsences key.attendanceDate).find? fun p => p.1.student = key.student with
  | some integration, some (summary, student) =>
    if summary.absenceStatus = notice.absenceStatus ∧ integration.provider = notice.provider ∧
        recipientIssue student.guardianMobile = none ∧
        recipientHash student.guardianMobile = notice.recipientHash ∧
        !s.recipientBlocked key.student student.guardianMobile ∧ s.isOperational then
      some (integration, student)
    else none
  | _, _ => none

/-- The first transaction of `send_absence_notice`: the provider and the number to send to. -/
def claimNotice (me : ℕ) (decryptSecret : String → Option String) (now : Instant)
    (key : NoticeKey) : SmsTransaction (Option (SmsProvider × String)) := do
  let found ← Tx.selectForUpdate (fun _ => [SmsRow.notice key]) fun _ s => s.notices key
  match found with
  | none => pure none
  | some notice =>
    if notice.status ≠ .queued then pure none
    else do
      let entitled ← Tx.select fun s => s.facts.hasAbsenceSms
      if !entitled then failBeforeSend key notice "FEATURE_NOT_INCLUDED_IN_PLAN"
      else do
        let ready ← Tx.select fun s => s.facts.readyToSend key notice
        match ready with
        | none => failBeforeSend key notice "PRE_SEND_STATE_CHANGED"
        | some (integration, student) =>
          match decryptSecret integration.secretEncrypted with
          | none => failBeforeSend key notice "CREDENTIAL_UNAVAILABLE"
          | some _ =>
            if Text.strip student.fullName.toList = [] then .raise (.dataError "full_name")
            else do
              Tx.update fun s => s.putNotice key
                { notice with
                  status := .sending
                  attemptedAt := some now
                  sender := some me }
              pure (some (integration.provider, student.guardianMobile))

def SmsOffice.call (s : SmsOffice) (key : NoticeKey) (mobile : String) : SmsOffice :=
  { s with calls := s.calls ++ [{ key := key, mobile := mobile }] }

def SmsOffice.endCalls (s : SmsOffice) (key : NoticeKey) (status : AbsenceSmsStatus) :
    SmsOffice :=
  { s with calls := s.calls.map fun c =>
      if c.key = key ∧ c.ended = none then { c with ended := some status } else c }

/-- `_finish`: only a notice that is being sent gets a result. -/
def finishNotice (now : Instant) (key : NoticeKey) (status : AbsenceSmsStatus) (code : String)
    (reference : Text) : SmsTransaction Unit := do
  let found ← Tx.selectForUpdate (fun _ => [SmsRow.notice key]) fun _ s => s.notices key
  match found with
  | none => .raise (.doesNotExist "AbsenceSmsNotice")
  | some notice =>
    if notice.status ≠ .sending then pure ()
    else if 40 < code.length then .raise (.dataError "failure_code")
    else Tx.update fun s => (s.putNotice key
      { notice with
        status := status
        failureCode := code
        providerReference := reference.take 100
        acceptedAt := if status = .accepted then some now else notice.acceptedAt }).endCalls
          key status

def recordOutcome (now : Instant) (key : NoticeKey) : SmsOutcome → SmsTransaction Unit
  | .result reference => finishNotice now key .accepted "" reference
  | .providerError code ambiguous =>
    finishNotice now key (if ambiguous then .unknown else .failed) code []
  | .otherException => finishNotice now key .unknown "UNEXPECTED_ERROR" []

/-- `send_absence_notice`, as the run `me` of the task: the provider answers with `answer`. -/
def sendAbsenceNotice (me : ℕ) (decryptSecret : String → Option String) (now finished : Instant)
    (key : NoticeKey) (answer : HttpOutcome) : SmsProgram Unit := do
  let known ← Program.read fun s => (s.notices key).isSome
  if !known then pure ()
  else do
    let claimed ← Program.transaction (claimNotice me decryptSecret now key)
    match claimed with
    | none => pure ()
    | some (provider, mobile) => do
      Program.transaction (Tx.update fun s => s.call key mobile)
      Program.transaction (recordOutcome finished key (sendSms provider answer))

/-- What users, the broker and everybody else do: queue messages, deliver a task, change the data
that messages are made from. -/
inductive SmsCall
  | queue (actor : ℕ) (d : Date) (studentIds : List ℕ) (brokerDown : ℕ → Bool)
  | send (now finished : Instant) (key : NoticeKey) (answer : HttpOutcome)
  | changeFacts (f : SmsFacts → SmsFacts)

def SmsCall.program (decryptSecret : String → Option String) (me : ℕ) : SmsCall → SmsProgram Unit
  | .queue actor d studentIds brokerDown => queueAbsenceSms actor d studentIds brokerDown
  | .send now finished key answer => sendAbsenceNotice me decryptSecret now finished key answer
  | .changeFacts f =>
    Program.transaction (Tx.update fun s => { s with facts := f s.facts })

end SchoolPlatform
