import ConsumerGroup.Act
import ConsumerGroup.Broker.Basic
import ConsumerGroup.Broker.Log
import ConsumerGroup.Broker.Member
import ConsumerGroup.Broker.Operation
import ConsumerGroup.Broker.Options
import ConsumerGroup.Broker.Rebalance
import ConsumerGroup.Broker.Subscription
import ConsumerGroup.Cluster
import ConsumerGroup.Configuration
import ConsumerGroup.Consumer
import ConsumerGroup.Coordinator
import ConsumerGroup.Coordinator.Backlog
import ConsumerGroup.Decimal.Shortest
import ConsumerGroup.Diary
import ConsumerGroup.Failure
import ConsumerGroup.Json.Decoder
import ConsumerGroup.Json.Fault
import ConsumerGroup.Json.Reader
import ConsumerGroup.Json.Value
import ConsumerGroup.Message
import ConsumerGroup.Notification
import ConsumerGroup.Partition.Basic
import ConsumerGroup.Partition.List
import ConsumerGroup.Partition.Offset
import ConsumerGroup.Pattern
import ConsumerGroup.Pattern.Bracket
import ConsumerGroup.Pattern.Class
import ConsumerGroup.Pattern.Extended
import ConsumerGroup.Pattern.Reader
import ConsumerGroup.Pattern.Syntax
import ConsumerGroup.Pattern.Tree
import ConsumerGroup.Proofs.Broker.Alone
import ConsumerGroup.Proofs.Broker.Aside
import ConsumerGroup.Proofs.Broker.Assigning
import ConsumerGroup.Proofs.Broker.Balance
import ConsumerGroup.Proofs.Broker.Bounds
import ConsumerGroup.Proofs.Broker.Change
import ConsumerGroup.Proofs.Broker.Circle
import ConsumerGroup.Proofs.Broker.Committing
import ConsumerGroup.Proofs.Broker.Deal
import ConsumerGroup.Proofs.Broker.Draining
import ConsumerGroup.Proofs.Broker.Frame
import ConsumerGroup.Proofs.Broker.Handout
import ConsumerGroup.Proofs.Broker.Order
import ConsumerGroup.Proofs.Broker.Queue
import ConsumerGroup.Proofs.Broker.Queueing
import ConsumerGroup.Proofs.Broker.Reading
import ConsumerGroup.Proofs.Broker.Records
import ConsumerGroup.Proofs.Broker.Rest
import ConsumerGroup.Proofs.Broker.Roll
import ConsumerGroup.Proofs.Broker.Shares
import ConsumerGroup.Proofs.Broker.Sound
import ConsumerGroup.Proofs.Broker.Sparing
import ConsumerGroup.Proofs.Broker.Topics
import ConsumerGroup.Proofs.Broker.Turns
import ConsumerGroup.Proofs.Broker.Unsubscribed
import ConsumerGroup.Proofs.Broker.Waking
import ConsumerGroup.Proofs.Cluster.Abreast
import ConsumerGroup.Proofs.Cluster.Gone
import ConsumerGroup.Proofs.Cluster.Refusal
import ConsumerGroup.Proofs.Cluster.Sleep
import ConsumerGroup.Proofs.Cluster.Watch
import ConsumerGroup.Proofs.Consumer.Abreast
import ConsumerGroup.Proofs.Consumer.Alike
import ConsumerGroup.Proofs.Consumer.Attending
import ConsumerGroup.Proofs.Consumer.Closing
import ConsumerGroup.Proofs.Consumer.Contract
import ConsumerGroup.Proofs.Consumer.Deadline
import ConsumerGroup.Proofs.Consumer.Deed
import ConsumerGroup.Proofs.Consumer.Failing
import ConsumerGroup.Proofs.Consumer.Look
import ConsumerGroup.Proofs.Consumer.Setback
import ConsumerGroup.Proofs.Consumer.Taking
import ConsumerGroup.Proofs.Consumer.Telling
import ConsumerGroup.Proofs.Consumer.Undone
import ConsumerGroup.Proofs.Consumer.Upheld
import ConsumerGroup.Proofs.Group.Applicable
import ConsumerGroup.Proofs.Group.Bounds
import ConsumerGroup.Proofs.Group.Committed
import ConsumerGroup.Proofs.Group.Course
import ConsumerGroup.Proofs.Group.Draining
import ConsumerGroup.Proofs.Group.Exclusive
import ConsumerGroup.Proofs.Group.Fairness
import ConsumerGroup.Proofs.Group.Handover
import ConsumerGroup.Proofs.Group.Identity
import ConsumerGroup.Proofs.Group.Ledger
import ConsumerGroup.Proofs.Group.Progress
import ConsumerGroup.Proofs.Group.Resume
import ConsumerGroup.Proofs.Group.Run
import ConsumerGroup.Proofs.Group.Settled
import ConsumerGroup.Proofs.Group.Standing
import ConsumerGroup.Proofs.Group.Stretch
import ConsumerGroup.Proofs.Group.Waking
import ConsumerGroup.Proofs.Hall.Alike
import ConsumerGroup.Proofs.Hall.Apart
import ConsumerGroup.Proofs.Hall.Run
import ConsumerGroup.Proofs.Tenure.Applicable
import ConsumerGroup.Proofs.Tenure.ByHand
import ConsumerGroup.Proofs.Tenure.Delivery
import ConsumerGroup.Proofs.Tenure.Leaving
import ConsumerGroup.Proofs.Tenure.Pairs
import ConsumerGroup.Proofs.Tenure.Poll
import ConsumerGroup.Proofs.Tenure.Records
import ConsumerGroup.Proofs.Tenure.Rows
import ConsumerGroup.Proofs.Tenure.Run
import ConsumerGroup.Proofs.Tenure.Setback
import ConsumerGroup.Session
import ConsumerGroup.Session.Edit
import ConsumerGroup.Session.Log
import ConsumerGroup.Session.Step
import ConsumerGroup.StatusCode
import ConsumerGroup.Text.Blank
import ConsumerGroup.Text.Category
import ConsumerGroup.Text.CodeRanges
import ConsumerGroup.Text.CodeRuns
import ConsumerGroup.Text.Folding
import ConsumerGroup.Text.Printable
import ConsumerGroup.Text.Property
import ConsumerGroup.Text.Quoted
import ConsumerGroup.Text.Script
import ConsumerGroup.Text.Span
import ConsumerGroup.Transport
import ConsumerGroup.Transport.Client
import ConsumerGroup.Transport.Client.Properties
import ConsumerGroup.Transport.Link
import ConsumerGroup.Transport.Script
import ConsumerGroup.Transport.Seat
import ConsumerGroup.Transport.Seat.Dry
