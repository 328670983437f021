import ChatBackend.Handler.AccountHandlers
import ChatBackend.Http.Exchange

/-!
# The routes of the server

`src/handler/Router.cpp` and the routes that `src/main.cpp` gives it. A request goes to the first route
with its method and path; to a protected one only after `AuthMiddleWare` has found a user in its access
token. A session reads a request, routes it and sends the response, and makes a response of any
exception.

## Main definitions

* `AuthMiddleWare.authenticate`
* `Router`, `Router.route`
* `router` — the routes of the server
* `Server.HttpSession.handle` — a request and its response
-/

namespace ChatBackend

open Server (perform)

/-! ### Authentication -/

namespace AuthMiddleWare

/-- What the value of the header must begin with. -/
def bearer : Bytes := utf8 "Bearer "

/-- The access token of a request, if it has one. -/
def accessTokenOf (request : HttpRequest) : Option Bytes :=
  match (request.headers (utf8 "authorization")).or (request.headers (utf8 "Authorization")) with
  | none => none
  | some authorization =>
    if bearer.isPrefixOf authorization then some (authorization.drop bearer.length) else none

/-- `authenticate`, of a request. -/
def authenticate (request : HttpRequest) : Server AuthResult :=
  match accessTokenOf request with
  | none => .ret (.error .unAuthorized)
  | some accessToken => (perform (.verify accessToken)).bind fun
    | .error .invalid => .ret (.error .unAuthorized)
    | .error .expired => .ret (.error .expired)
    | .ok userId => .ret (.ok userId)

end AuthMiddleWare

/-! ### Routing -/

/-- `Router::Route` and `Router::Protected_Route`. -/
structure Route (H : Type) where
  method : HttpMethod
  path : Bytes
  handler : H

/-- `Router`. -/
structure Router where
  routes : List (Route (HttpRequest → Server HttpResponse))
  protectedRoutes : List (Route (HttpRequest → Uuid → Server HttpResponse))

namespace Router

/-- A router without routes. -/
def empty : Router := ⟨[], []⟩

/-- `addRoute`. -/
def addRoute (router : Router) (method : HttpMethod) (path : String)
    (handler : HttpRequest → Server HttpResponse) : Router :=
  { router with routes := router.routes ++ [⟨method, utf8 path, handler⟩] }

/-- `addProtectedRoute`. -/
def addProtectedRoute (router : Router) (method : HttpMethod) (path : String)
    (handler : HttpRequest → Uuid → Server HttpResponse) : Router :=
  { router with protectedRoutes := router.protectedRoutes ++ [⟨method, utf8 path, handler⟩] }

/-- Is it the route of the request? -/
def matches' {H : Type} (request : HttpRequest) (route : Route H) : Bool :=
  route.method = request.method ∧ route.path = request.path

/-- `protected_route`. -/
def protectedRoute (router : Router) (request : HttpRequest) : Server HttpResponse :=
  match router.protectedRoutes.find? (matches' request) with
  | none => .ret (errorResponseMaker .notFound "route_not_found" "Route not found")
  | some route => (AuthMiddleWare.authenticate request).bind fun
    | .error .unAuthorized =>
      .ret (errorResponseMaker .unauthorized "invalid_access_token" "Invalid access token")
    | .error .expired =>
      .ret (errorResponseMaker .unauthorized "access_token_expired" "Access token expired")
    | .ok userId => route.handler request userId

/-- `route`. -/
def route (router : Router) (request : HttpRequest) : Server HttpResponse :=
  match router.routes.find? (matches' request) with
  | some route => route.handler request
  | none => router.protectedRoute request

end Router

/-! ### The routes -/

/-- A handler whose response is given the type of its content afterwards. -/
def withContentType (handled : Server HttpResponse) : Server HttpResponse :=
  handled.bind fun response => .ret (response.setHeader "Content-Type" "application/json")

namespace Server

/-- **The routes of the server**, in the order of `main`. -/
def router (P : Platform) (parser : JsonParser) : Router :=
  Router.empty
  |>.addProtectedRoute .post "/revoke_device" (UserHandler.revokeDevice parser)
  |>.addRoute .post "/register_device" (ChatHandler.registerNewDevice P parser)
  |>.addProtectedRoute .post "/upload_one_time_prekeys" (ChatHandler.uploadOneTimePrekeys parser)
  |>.addProtectedRoute .post "/get_one_time_prekey" (ChatHandler.getOneTimePrekey parser)
  |>.addProtectedRoute .post "/friend_devices" (ChatHandler.fetchUserDevices parser)
  |>.addProtectedRoute .post "/user_devices" (ChatHandler.fetchUserDevices parser)
  |>.addProtectedRoute .post "/get_device_key_bundle" (ChatHandler.getDeviceKeyBundle parser)
  |>.addRoute .get "/refresh_token" (RefreshTokenHandler.verifyRefreshToken parser)
  |>.addRoute .get "/user" UserHandler.getUser
  |>.addProtectedRoute .post "/verify_access_token"
    (fun _ _ => withContentType UserHandler.verifyaccess)
  |>.addProtectedRoute .get "/find_user_by_username"
    (fun request userId => withContentType (UserHandler.findUserByUsername parser request userId))
  |>.addProtectedRoute .get "/fetch_unprocessed_friend_request"
    (fun _ userId => withContentType (UserHandler.fetchUnprocessedFriendship userId))
  |>.addProtectedRoute .post "/request_friendship"
    (fun request userId => withContentType (UserHandler.requestFriendship parser request userId))
  |>.addRoute .post "/register_by_email"
    (fun request => withContentType (UserHandler.register parser request))
  |>.addRoute .post "/login_by_email"
    (fun request => withContentType (UserHandler.loginByEmail P parser request))
  |>.addProtectedRoute .post "/process_friendship_request"
    (UserHandler.processFriendshipRequest parser)
  |>.addProtectedRoute .get "/fetch_friends"
    (fun _ userId => withContentType (UserHandler.fetchFriends userId))
  |>.addRoute .post "/device_verification"
    (fun request => withContentType (UserHandler.deviceVerification P parser request))

/-- The end of `HandleHttpSession`: a response is the last one, and is sent. -/
def HttpSession.send (response : HttpResponse) : Server HttpResponse :=
  (perform (.sendAll response.closing)).bind fun _ => .ret response.closing

/-- `HandleHttpSession`, for a request that is not one to upgrade: it is routed and the response is
sent. What either throws becomes a response, and that is sent. -/
def HttpSession.handle (router : Router) : Server HttpResponse :=
  (perform .receive).bind fun request =>
    ((router.route request).bind HttpSession.send).tryCatch fun error =>
      HttpSession.send (failureResponse error)

end Server

end ChatBackend
