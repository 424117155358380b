import TomNotifier.Core.Repository.Scrolling
import TomNotifier.Core.Service.ConfirmationsDrained
import TomNotifier.Core.Service.Handovers
import TomNotifier.Core.Service.Undelivered
import TomNotifier.Deployment.Answers
import TomNotifier.Deployment.Provenance
import TomNotifier.Rabbitmq.Consumer.Status
import TomNotifier.Rabbitmq.Publishes
import TomNotifier.WsDelivery.Consumer.Events
import TomNotifier.WsDelivery.Consumer.Order
import TomNotifier.WsDelivery.Consumer.Recovery
import TomNotifier.WsDelivery.Deduplication.Collected
import TomNotifier.WsDelivery.Routing
import TomNotifier.WsDelivery.Tickets.SingleUse
import TomNotifier.WsDelivery.WebSockets.Confirmations
import TomNotifier.WsDelivery.WebSockets.Gaps
import TomNotifier.WsDelivery.WebSockets.Heartbeat
import TomNotifier.WsDelivery.WebSockets.Mailboxes
import TomNotifier.WsDelivery.WebSockets.NetworkStatus
import TomNotifier.WsDelivery.WebSockets.Retries
