import MenuHost.Json.Reader
import MenuHost.Menu.Client
import MenuHost.Menu.Config
import MenuHost.Server.Config
import MenuHost.Server.Run
import MenuHost.Proofs.Sessions.Lifetime
import MenuHost.Proofs.Sessions.Ending
import MenuHost.Proofs.Server.Secrecy
import MenuHost.Proofs.Server.Settings
import MenuHost.Proofs.Server.Login
import MenuHost.Proofs.Server.Logout
import MenuHost.Proofs.Server.Agreement
import MenuHost.Proofs.Server.Inert
import MenuHost.Proofs.Server.Interleaving
import MenuHost.Proofs.Server.Refusal
import MenuHost.Proofs.Server.Renaming
import MenuHost.Proofs.Server.Unavailable
import MenuHost.Proofs.Time.DateFormat
import MenuHost.Proofs.Menu.Logouts
import MenuHost.Proofs.Menu.Opaque
import MenuHost.Proofs.Menu.Inventory
import MenuHost.Proofs.Menu.ConfigShape
import MenuHost.Proofs.Menu.ConfigText
import MenuHost.Proofs.Menu.Factories
import MenuHost.Proofs.Menu.Pairing
import MenuHost.Proofs.Password.Verdict
import MenuHost.Proofs.Sessions.CookieValue
import MenuHost.Proofs.Sessions.ExpiresAttribute
import MenuHost.Proofs.Http.FieldName
import MenuHost.Proofs.Sessions.CookieHeaders
import MenuHost.Proofs.Files.Path
import MenuHost.Proofs.Files.Walk
import MenuHost.Proofs.Files.Confinement
import MenuHost.Proofs.Server.Confinement
import MenuHost.Proofs.Files.Search
import MenuHost.Proofs.Files.Sibling
import MenuHost.Proofs.Files.Served
import MenuHost.Proofs.Server.Fallback
import MenuHost.Proofs.Sessions.TokenBits
