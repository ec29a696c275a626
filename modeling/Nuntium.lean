import Nuntium.Storage
import Nuntium.World
import Nuntium.Telepathy.Path
import Nuntium.Telepathy.Service
import Nuntium.Ofono.Modem
import Nuntium.Ofono.Context
import Nuntium.Mediator.Inbound
import Nuntium.Mediator.Startup
import Nuntium.Mediator.Loop
import Nuntium.Mediator.Consistency
import Nuntium.Mediator.Slot
import Nuntium.Mediator.Refinement
import Nuntium.Mediator.Pass
import Nuntium.Mediator.Order
import Nuntium.Mediator.Outcome
import Nuntium.Mediator.Idempotence
import Nuntium.Mediator.Outbound
import Nuntium.Mediator.Redownload
import Nuntium.Mediator.Acknowledgement
import Nuntium.Mediator.Progress
import Nuntium.Telepathy.Methods
import Nuntium.Mediator.Protocol
import Nuntium.Ofono.Watch
import Nuntium.Ofono.Activation
import Nuntium.Ofono.Init
