import RestaurantApi.Model
import RestaurantApi.Exec
import RestaurantApi.Store
import RestaurantApi.Handlers
import RestaurantApi.Routes
import RestaurantApi.Menus
import RestaurantApi.Errors
import RestaurantApi.Access
import RestaurantApi.Refinement
import RestaurantApi.Interleaving
import RestaurantApi.LostUpdate
import RestaurantApi.Uuid
import RestaurantApi.Http
import RestaurantApi.Served
import RestaurantApi.Shutdown
