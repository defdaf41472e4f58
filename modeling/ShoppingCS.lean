import ShoppingCS.Interleaving.Service
import ShoppingCS.Shop.ConcurrentAdds
import ShoppingCS.Shop.OrderSequence
import ShoppingCS.Shop.OrderReads
import ShoppingCS.Shop.Noninterference
import ShoppingCS.Shop.SingleAnswer
import ShoppingCS.Shop.ProductSearch
import ShoppingCS.Shop.CompletedOrders
import ShoppingCS.Shop.PositiveQuantities
import ShoppingCS.Shop.CheckoutFailure
import ShoppingCS.Shop.CheckoutAmounts
import ShoppingCS.Shop.CartLinearization
import ShoppingCS.Shop.SilentRequests
import ShoppingCS.Shop.StatementCounts
import ShoppingCS.Client.CheckoutTotal
import ShoppingCS.Client.CheckoutVisits
import ShoppingCS.Client.Storefront
import ShoppingCS.Client.Wire
import ShoppingCS.Client.Isolation
import ShoppingCS.Client.Clicks
import ShoppingCS.Client.Rendering
import ShoppingCS.Client.CartReducer
import ShoppingCS.Auth.Termination
import ShoppingCS.Auth.Logout
import ShoppingCS.Auth.Validation
import ShoppingCS.Auth.Backup
import ShoppingCS.Auth.OneForOne
import ShoppingCS.Auth.RevokeAll
import ShoppingCS.Auth.LoginOutcome
import ShoppingCS.Auth.CreationOutcome
import ShoppingCS.Auth.IdleConnections
import ShoppingCS.Auth.RequestLines
import ShoppingCS.Auth.Conversations
import ShoppingCS.Auth.UnheardStores
import ShoppingCS.Auth.Neighbours
