import Mailroom.Text.Integer
import Mailroom.Url.Fault

/-!
# Errors

Everything that can go wrong, by cause. Each cause has a code, and each code belongs to a family:
provider errors arise while talking to the remote mailbox and leave the rest of a run going, store
errors arise in the local store and end it.
-/

namespace Mailroom

/-- The code of an error. -/
inductive ErrorCode
  | invalidRule
  | invalidAction
  | invalidRulesFile
  | invalidParameter
  | missingConfiguration
  | missingRefreshToken
  | gmailApiCallFailed
  | networkError
  | httpResponseError
  | storeFailed
  | alreadyExists
  | internalError
deriving DecidableEq, Repr

namespace ErrorCode

/-- The number of a code. -/
def number : ErrorCode → Nat
  | invalidRule => 10000
  | invalidAction => 10010
  | invalidRulesFile => 10020
  | invalidParameter => 20000
  | missingConfiguration => 20010
  | missingRefreshToken => 20020
  | gmailApiCallFailed => 30000
  | networkError => 30010
  | httpResponseError => 30020
  | storeFailed => 40000
  | alreadyExists => 40010
  | internalError => 70000

/-- The name of a code. -/
def name : ErrorCode → String
  | invalidRule => "InvalidRule"
  | invalidAction => "InvalidAction"
  | invalidRulesFile => "InvalidRulesFile"
  | invalidParameter => "InvalidParameter"
  | missingConfiguration => "MissingConfiguration"
  | missingRefreshToken => "MissingRefreshToken"
  | gmailApiCallFailed => "GmailApiCallFailed"
  | networkError => "NetworkError"
  | httpResponseError => "HttpResponseError"
  | storeFailed => "StoreFailed"
  | alreadyExists => "AlreadyExists"
  | internalError => "InternalError"

/-- A code as it is shown: name and number. -/
def display (c : ErrorCode) : String := c.name ++ "(" ++ natText c.number ++ ")"

/-- Whether the code is for failures in talking to the remote mailbox. -/
def isProvider (c : ErrorCode) : Bool :=
  c = gmailApiCallFailed || c = networkError || c = httpResponseError

/-- Whether the code is for failures of the local store. -/
def isStore (c : ErrorCode) : Bool := c = storeFailed || c = alreadyExists

/-- The family of a code, as its number tells it. -/
def family (c : ErrorCode) : Nat := c.number / 10000

private theorem isProvider_iff_family {c : ErrorCode} : c.isProvider = true ↔ c.family = 3 := by
  cases c <;> decide

private theorem isStore_iff_family {c : ErrorCode} : c.isStore = true ↔ c.family = 4 := by
  cases c <;> decide

/-- No code is of both families, since it has one number. -/
private theorem not_isStore_of_isProvider {c : ErrorCode} (h : c.isProvider = true) :
    c.isStore = false := by
  rw [Bool.eq_false_iff, ne_eq, isStore_iff_family, isProvider_iff_family.1 h]
  decide

end ErrorCode

/-- What is wrong with the store. -/
inductive StoreFault
  | noTable (name : String)
  | valueKind (kind column : String)
  | patternTooComplex
  | tooDeep (limit : Nat)
  | malformedQuery
  | duplicateId
  | danglingHeader
  | unopened (path : String)
  | notAStore
deriving DecidableEq, Repr

namespace StoreFault

/-- A fault in words. -/
def reason : StoreFault → String
  | noTable name => "no such table: " ++ name
  | valueKind kind column =>
      "Invalid column type " ++ kind ++ " at index: 0, name: " ++ column
  | patternTooComplex => "LIKE or GLOB pattern too complex"
  | tooDeep limit =>
      "Expression tree is too large (maximum depth " ++ natText limit ++ ")"
  | malformedQuery => "syntax error"
  | duplicateId => "UNIQUE constraint failed: messages.id"
  | danglingHeader => "FOREIGN KEY constraint failed"
  | unopened path => "unable to open database file: " ++ path
  | notAStore => "file is not a database"

/-- Whether the fault is a value that the tables do not admit. -/
def isConstraint : StoreFault → Bool
  | duplicateId => true
  | danglingHeader => true
  | _ => false

end StoreFault

/-- Why a token endpoint's answer is of no use. -/
inductive TokenFault
  | unanswered
  | refused
  | unreadable
  | unusable
deriving DecidableEq, Repr

/-- A token fault as one word. -/
def TokenFault.label : TokenFault → String
  | unanswered => "Request("
  | refused => "ServerResponse("
  | unreadable => "Parse("
  | unusable => "Other("

/-- An error, by cause. -/
inductive Error
  | matchMode (value : String)
  | filterField (field : String)
  | filterOperator (operator field : String)
  | filterDate (field : String)
  | blankRuleName
  | missingLabelName
  | actionKind (kind : String)
  | unknownLabel (name : String)
  | rulesText
  | ruleAt (number : Nat) (name : String) (cause : Error)
  | rulesFile (path : String) (cause : Error)
  | unreadableRules (path : String)
  | unreadableCredentials (path : String)
  | credentialsText
  | noClient
  | serviceUrl (fault : Url.Fault)
  | noToken (path : String)
  | unreadableToken (path : String)
  | tokenText (path : String)
  | unwritableToken (path : String)
  | unreadableCode
  | blankCode
  | redirectUrl (fault : Url.Fault)
  | noCodeParameter
  | exchange (fault : TokenFault)
  | noGrantedRefreshToken
  | noRefreshToken
  | refresh
  | refused (status : Nat) (payload : String)
  | unanswered (path : String)
  | unexpected (path : String)
  | rowWidth (expected found : Nat)
  | storedJson (column id : String)
  | store (fault : StoreFault)
deriving DecidableEq, Repr

namespace Error

/-- The code of an error. -/
def code : Error → ErrorCode
  | matchMode _ | filterField _ | filterOperator _ _ | filterDate _ | blankRuleName => .invalidRule
  | missingLabelName | actionKind _ | unknownLabel _ => .invalidAction
  | rulesText | ruleAt _ _ _ | rulesFile _ _ => .invalidRulesFile
  | unreadableRules _ | unreadableCredentials _ | noToken _ => .missingConfiguration
  | credentialsText | noClient | serviceUrl _ | tokenText _ | blankCode | redirectUrl _
  | noCodeParameter => .invalidParameter
  | unreadableToken _ | unwritableToken _ | unreadableCode => .internalError
  | exchange _ | refresh | unexpected _ => .httpResponseError
  | noGrantedRefreshToken | noRefreshToken => .missingRefreshToken
  | refused _ _ => .gmailApiCallFailed
  | unanswered _ => .networkError
  | rowWidth _ _ | storedJson _ _ => .storeFailed
  | store fault => if fault.isConstraint then .alreadyExists else .storeFailed

/-- An error in words. -/
def message : Error → String
  | matchMode value => "Invalid filter match: " ++ value
  | filterField field => "Invalid field: " ++ field
  | filterOperator operator field =>
      "Invalid operator '" ++ operator ++ "' for field '" ++ field ++ "'"
  | filterDate field => "Invalid value for date filter '" ++ field ++ "'"
  | blankRuleName => "Rule name must not be empty"
  | missingLabelName => "Action 'move' requires a label name"
  | actionKind kind => "Invalid action type: " ++ kind
  | unknownLabel name => "Invalid label name: " ++ name
  | rulesText => "no rules document"
  | ruleAt number name cause =>
      "rule #" ++ natText number ++ " '" ++ name ++ "': " ++ cause.message
  | rulesFile path cause => "Invalid rules file " ++ path ++ ": " ++ cause.message
  | unreadableRules path => "Failed to read rules file " ++ path ++ ": unreadable"
  | unreadableCredentials path => "Failed to read OAuth2 credentials " ++ path ++ ": unreadable"
  | credentialsText => "Invalid OAuth2 credentials file: no credentials"
  | noClient => "OAuth2 credentials file has neither an 'installed' nor a 'web' client"
  | serviceUrl fault => fault.label
  | noToken path => "No saved token at " ++ path ++ ". Run with --mailrules-authorize first."
  | unreadableToken path => "Failed to read token file " ++ path ++ ": unreadable"
  | tokenText path => "Invalid token file " ++ path ++ ": no token"
  | unwritableToken path => "Failed to write token file " ++ path ++ ": unwritable"
  | unreadableCode => "Failed to read authorization code: unreadable"
  | blankCode => "Authorization code is empty"
  | redirectUrl fault => "Invalid redirect URL: " ++ fault.reason
  | noCodeParameter => "Redirect URL has no 'code' parameter"
  | exchange fault => fault.label
  | noGrantedRefreshToken => "Missing refresh token in the token response."
  | noRefreshToken => "refresh token is null"
  | refresh => "Failed to retrieve refresh token response: unusable"
  | refused status payload =>
      "Gmail API responded with HTTP " ++ natText status ++ ": " ++ payload
  | unanswered path => "Gmail API request '" ++ path ++ "' failed: unanswered"
  | unexpected path =>
      "Failed to deserialize Gmail API response for '" ++ path ++ "': unexpected content"
  | rowWidth expected found =>
      "Expected " ++ natText expected ++ " columns in a message row, found " ++ natText found
  | storedJson column id =>
      "Stored column '" ++ column ++ "' of message " ++ id ++
        " is not valid JSON: unexpected content"
  | store fault => "Local store operation failed: " ++ fault.reason

/-- Whether the error arose in talking to the remote mailbox. -/
def isProvider (e : Error) : Bool := e.code.isProvider

/-- Whether the error arose in the local store. -/
def isStore (e : Error) : Bool := e.code.isStore

/-- The status of an answer that refused a request. -/
def status? : Error → Option Nat
  | refused status _ => some status
  | _ => none

theorem not_isStore_of_isProvider {e : Error} (h : e.isProvider = true) : e.isStore = false :=
  ErrorCode.not_isStore_of_isProvider h

end Error

end Mailroom
