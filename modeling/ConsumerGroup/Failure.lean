import ConsumerGroup.Json.Fault
import ConsumerGroup.Partition.List
import ConsumerGroup.StatusCode

/-!
# Failures

What can go wrong, as causes. An operation fails with a `Failure`; each
has one wording (`Failure.message`) and most have a status code
(`Failure.code?`).

A `Crash` is not an answer but the end of a call: a callback that gives
up, or a misuse that no answer covers. `Fault` is either of the two, the
way a call can end without a result.
-/

namespace ConsumerGroup

/-- What is wrong with an option of a configuration. -/
inductive OptionFault where
  /-- An option without which nothing works is not there. -/
  | missing (name : String)
  /-- The value is none of the words the option takes. -/
  | notAWord (value : String) (words : List String)
  /-- The value is neither `true` nor `false`. -/
  | notABoolean
  deriving DecidableEq, Repr

/-- What a client without a cluster objects to in a property. -/
inductive PropertyFault where
  | unknown
  | noInteger
  | noBoolean
  | noWord
  | notAnInteger
  | notWithin (value least greatest : Int)
  | notABoolean
  /-- The value, without the blanks before it, is none of the words. -/
  | notAWord (word : String)
  deriving DecidableEq, Repr

/-- What is wrong with a configuration. -/
inductive ConfigurationFault where
  /-- No group to join. -/
  | noGroup
  | option (fault : OptionFault)
  /-- A property a client does not take. -/
  | property (key value : String) (fault : PropertyFault)
  /-- A session that would outlast the longest pause between two polls. -/
  | sessionOutlastsPolling
  /-- A group without a name: the client has no queue to read from. -/
  | noQueue
  /-- Anything else, in words. -/
  | described (text : String)
  deriving DecidableEq, Repr

/-- What a notification of the group has a transport do. -/
inductive RebalanceAction where
  | assign
  | unassign
  deriving DecidableEq, Repr

/-- Why an operation failed. -/
inductive Failure where
  | configuration (fault : ConfigurationFault)
  /-- A refusal with a status code, and the words that came with it. -/
  | broker (code : StatusCode) (message : String)
  /-- A transport refused what a notification asked for. -/
  | rebalance (action : RebalanceAction) (source : Failure)
  /-- A callback changed which partitions are assigned. -/
  | partitionsChanged (expected actual : PartitionList)
  /-- A text that should have been JSON. -/
  | json (misread : Json.Misread)
  /-- A subscription that is not a pattern. -/
  | pattern
  deriving DecidableEq

/-- Why a call ended without an answer. -/
inductive Crash where
  /-- A place in a list that it does not have. -/
  | noSuchEntry (length index : Nat)
  /-- A topic's name with a zero byte in it. -/
  | zeroInName (bytes : List UInt8)
  /-- A callback gave up, with these words. -/
  | callback (text : String)
  /-- The call was made while another crash was being handled. -/
  | unwinding
  deriving DecidableEq, Repr

/-- The entry at a place of a list; a place it does not have ends the
call. -/
def PartitionList.entryAt (l : PartitionList) (i : Nat) : Except Crash PartitionOffset :=
  match l[i]? with
  | some e => .ok e
  | none => .error (.noSuchEntry l.length i)

/-- The way a call ends that has no result. -/
inductive Fault where
  | failure (f : Failure)
  | crash (c : Crash)
  deriving DecidableEq

/-! ## Wordings -/

/-- Words between backquotes, parted by commas. -/
def backquoted (words : List String) : String :=
  ", ".intercalate (words.map fun w => "`" ++ w ++ "`")

/-- The wording of an option's fault. -/
def OptionFault.message : OptionFault → String
  | .missing name => "missing field " ++ backquoted [name]
  | .notAWord value words =>
    "unknown variant " ++ backquoted [value] ++ ", expected one of " ++ backquoted words
  | .notABoolean => "provided string was not `true` or `false`"

/-- The wording of a property's fault. -/
def PropertyFault.message (key : String) : PropertyFault → String
  | .unknown => "No such configuration property: \"" ++ key ++ "\""
  | .noInteger => "Integer configuration property \"" ++ key ++ "\" cannot be set to empty value"
  | .noBoolean => "Bool configuration property \"" ++ key ++ "\" cannot be set to empty value"
  | .noWord => "Configuration property \"" ++ key ++ "\" cannot be set to empty value"
  | .notAnInteger => "Invalid value for configuration property \"" ++ key ++ "\""
  | .notWithin n least greatest =>
    "Configuration property \"" ++ key ++ "\" value " ++ toString n
      ++ " is outside allowed range " ++ toString least ++ ".." ++ toString greatest ++ "\n"
  | .notABoolean => "Expected bool value for \"" ++ key ++ "\": true or false"
  | .notAWord word => "Invalid value \"" ++ word ++ "\" for configuration property \"" ++ key ++ "\""

/-- The wording of a configuration's fault. -/
def ConfigurationFault.message : ConfigurationFault → String
  | .noGroup => "\"group.id\" must be set to create a consumer"
  | .option fault => fault.message
  | .property key value fault =>
    "Client config error: " ++ fault.message key ++ " " ++ key ++ " " ++ value
  | .sessionOutlastsPolling =>
    "Client creation error: `max.poll.interval.ms`must be >= `session.timeout.ms`"
  | .noQueue => "Client creation error: rdkafka consumer queue not available"
  | .described text => text

/-- The name of what a notification asked for. -/
def RebalanceAction.name : RebalanceAction → String
  | .assign => "assign"
  | .unassign => "unassign"

namespace Failure

/-- A refusal in the standard words of its code. -/
def ofCode (code : StatusCode) : Failure := .broker code code.description

/-- The code behind a failure, if there is one: a refused notification
has the code of the refusal. -/
def code? : Failure → Option StatusCode
  | .broker code _ => some code
  | .rebalance _ source => source.code?
  | _ => none

/-- The wording of a failure. Why a subscription is no pattern is not
said. -/
def message : Failure → String
  | .configuration fault => "Configuration error: " ++ fault.message
  | .broker code text => "Broker error: code=" ++ code.toText ++ ", message=" ++ text
  | .rebalance action source =>
    "Rebalance failed to " ++ action.name ++ " partitions: " ++ source.message
  | .partitionsChanged expected actual =>
    "Assignment callback changed the partition set from " ++ expected.toText ++ " to "
      ++ actual.toText
  | .json misread => "Serialization error: " ++ misread.message
  | .pattern => "Invalid subscription pattern"

end Failure

/-- The place of the first zero byte. -/
def firstZero (bytes : List UInt8) : Nat := (bytes.takeWhile (· ≠ 0)).length

/-- The words of a crash. -/
def Crash.message : Crash → String
  | .noSuchEntry length index =>
    "index out of bounds: the len is " ++ toString length ++ " but the index is "
      ++ toString index
  | .zeroInName bytes =>
    "Topic name is not UTF-8: NulError(" ++ toString (firstZero bytes) ++ ", ["
      ++ ", ".intercalate (bytes.map toString) ++ "])"
  | .callback text => text
  | .unwinding => "unwinding"

end ConsumerGroup
