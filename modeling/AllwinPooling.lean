import AllwinPooling.Error
import AllwinPooling.Math.Decimal
import AllwinPooling.Codec.Bytes
import AllwinPooling.Codec.Entries
import AllwinPooling.State.Common
import AllwinPooling.State.Pool
import AllwinPooling.State.Ticket
import AllwinPooling.State.Mining
import AllwinPooling.State.PoolManager
import AllwinPooling.Codec.PoolManager
import AllwinPooling.Codec.Pool
import AllwinPooling.Codec.Ticket
import AllwinPooling.Codec.Mining
import AllwinPooling.Position.Capacity
import AllwinPooling.Reward.Index
import AllwinPooling.Reward.Watermark
import AllwinPooling.Liquidity.ExchangeRate
import AllwinPooling.Liquidity.OwnerFee
import AllwinPooling.Liquidity.Borrow
import AllwinPooling.Liquidity.Lifecycle
import AllwinPooling.Reward.Refresh
import AllwinPooling.Reward.Frequency
import AllwinPooling.Runtime.Account
import AllwinPooling.Processor.Instruction
import AllwinPooling.Processor.Oracle
import AllwinPooling.Processor.PythPrice
import AllwinPooling.Processor.QuoteCurrency
import AllwinPooling.Processor.Handlers
import AllwinPooling.Processor.Run
import AllwinPooling.Processor.Effects
import AllwinPooling.Processor.RefreshTicket
import AllwinPooling.Processor.Invariants
import AllwinPooling.Processor.Frame
import AllwinPooling.Processor.Guarantees
import AllwinPooling.Processor.Integrity
import AllwinPooling.Processor.TokenFlow
import AllwinPooling.Processor.Records
