import ConsumerGroup.Failure

/-!
# Subscriptions

A member subscribes to topics by name, or to all topics a pattern
accepts. What a pattern accepts is any predicate on names, and which
texts are patterns and what they accept is up to whoever reads them
(`PatternReader`). Nothing here, nor anything about the broker, rests on
how that is done.
-/

namespace ConsumerGroup

/-- Somebody who reads patterns: which names a text accepts, if it is a
pattern at all. -/
abbrev PatternReader := String → Option (String → Bool)

/-- One thing a member subscribes to. -/
inductive Subscription where
  /-- The topic of that name. -/
  | topic (name : String)
  /-- The topics whose names a pattern accepts. -/
  | pattern (source : String) (accepts : String → Bool)

namespace Subscription

/-- The text a member subscribed with. -/
def text : Subscription → String
  | .topic name => name
  | .pattern source _ => source

/-- Whether the subscription covers a topic. -/
def covers : Subscription → String → Bool
  | .topic name, t => name == t
  | .pattern _ accepts, t => accepts t

/-- Reads a subscription: a text that begins with a circumflex is a
pattern, any other is a name. -/
def ofText (read : PatternReader) (s : String) : Except Failure Subscription :=
  if s.startsWith "^" then
    match read s with
    | some accepts => .ok (.pattern s accepts)
    | none => .error .pattern
  else .ok (.topic s)

/-- Reads several subscriptions; the first that is no pattern fails
them all. -/
def ofTexts (read : PatternReader) : List String → Except Failure (List Subscription)
  | [] => .ok []
  | s :: rest =>
    match ofText read s with
    | .error f => .error f
    | .ok x =>
      match ofTexts read rest with
      | .error f => .error f
      | .ok xs => .ok (x :: xs)

end Subscription

end ConsumerGroup
