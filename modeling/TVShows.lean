import TVShows.TransitionRun
import TVShows.LiveTable
import TVShows.Models
import TVShows.FavoriteStore
import TVShows.FavoriteSet
import TVShows.DetailScreen
import TVShows.StoredCopy
import TVShows.Networking
import TVShows.ShowsScreen
import TVShows.FetchOutcome
import TVShows.ShowsScreenRuns
import TVShows.FetchSupersession
import TVShows.FavoritesScreen
import TVShows.App
import TVShows.DuplicateSave
import TVShows.AppRuns
import TVShows.FavoritesAgree
import TVShows.DetailButton
import TVShows.PosterCache
import TVShows.CellReuse
import TVShows.FavoritesOrder
import TVShows.RowRendering
import TVShows.AppContent
import TVShows.ListArrival
import TVShows.JSONDecoding
import TVShows.ShowDecoding
import TVShows.AppSessions
import TVShows.NavigationBar
import TVShows.PosterAccounting
import TVShows.PosterDelivery
import TVShows.OwnPoster
import TVShows.PosterTasks
import TVShows.VisibleRows
import TVShows.BodyToStore
import TVShows.DetailPosters
