import DdeTrayLoader.Power.Freshness
import DdeTrayLoader.Power.Requests
import DdeTrayLoader.Tray.InputShapes
import DdeTrayLoader.Tray.Convergence
import DdeTrayLoader.Tray.Suppression
import DdeTrayLoader.Tray.Recycling
import DdeTrayLoader.Tray.Records
import DdeTrayLoader.Tray.Callbacks
import DdeTrayLoader.Tray.Docking
import DdeTrayLoader.Tray.UniqueIds
import DdeTrayLoader.Tray.LeaveNotify
import DdeTrayLoader.Plugin.PluginPopup
import DdeTrayLoader.Plugin.MoveXembedWindow
import DdeTrayLoader.Plugin.TrayItems
import DdeTrayLoader.Plugin.Cards
import DdeTrayLoader.Media.MediaController
import DdeTrayLoader.Bluetooth.AdaptersManager
import DdeTrayLoader.Bluetooth.DeviceLists
import DdeTrayLoader.Bluetooth.Ordering
import DdeTrayLoader.Brightness.Requests
import DdeTrayLoader.Brightness.Applet
import DdeTrayLoader.Sound.SoundApplet
import DdeTrayLoader.Sound.ActivePort
import DdeTrayLoader.Sound.DefaultSink
import DdeTrayLoader.Casting.WirelessCasting
import DdeTrayLoader.Plugin.AppletMinHeight
import DdeTrayLoader.Tray.Creations
import DdeTrayLoader.Tray.Icons
import DdeTrayLoader.Tray.SelectionClaim
import DdeTrayLoader.Brightness.MonitorOrder
import DdeTrayLoader.Common.DConfigHelper
import DdeTrayLoader.Calendar.LeftPanel
import DdeTrayLoader.Calendar.LunarLabels
import DdeTrayLoader.Calendar.MonthGrid
import DdeTrayLoader.Calendar.Navigation
import DdeTrayLoader.Calendar.ShortDateFormat
import DdeTrayLoader.Keyboard.ShortNames
import DdeTrayLoader.Datetime.DatetimeWidget
import DdeTrayLoader.Power.BatteryTime
import DdeTrayLoader.Power.PowerModes
import DdeTrayLoader.DBusMenu.Unfetched
import DdeTrayLoader.DBusMenu.Titles
import DdeTrayLoader.DBusMenu.Told
import DdeTrayLoader.DBusMenu.Marshalling
import DdeTrayLoader.Loader.Main
import DdeTrayLoader.EyeComfort.Themes
import DdeTrayLoader.Plugin.PluginItemTokens
import DdeTrayLoader.Tray.IndicatorEnabled
import DdeTrayLoader.Tray.SniIcons
import DdeTrayLoader.Tray.SniMenu
